import SmbExchange.Toml.Writer

/-!
# Strings that are written and read back

Whatever a text holds, the writer finds a kind of string from which the reader
gets the text again.  Between single quotes nothing is escaped, so the writer
has to look at the text before it takes them; between double quotes every text
can be written.  Where a string goes over several lines, quotes that have been
written may turn out to belong to the closing ones.  The proofs therefore carry
the quotes in front of the place that has been reached, of which there are never
more than two.
-/

namespace SmbExchange.Toml

/-! ## Characters -/

theorem isPlain_iff (char : Char) :
    isPlain char = true ↔ char = '\t' ∨ 32 ≤ char.toNat ∧ char.toNat ≠ 127 := by
  have hnumber : char = '\x7f' ↔ char.toNat = 127 :=
    ⟨fun hchar => hchar ▸ rfl, fun htoNat => Char.toNat_inj.mp htoNat⟩
  rw [isPlain, Bool.or_eq_true, beq_iff_eq, Bool.and_eq_true, decide_eq_true_eq,
    decide_eq_true_eq, ne_eq, hnumber]
  rfl

theorem isPlain_of_not_isCode {char : Char} (hcode : isCode char = false) (hnewline : char ≠ '\n') :
    isPlain char = true := by
  rw [isCode, Bool.and_eq_false_iff] at hcode
  rcases hcode with hplain | hnewline'
  · simpa using hplain
  · exact absurd (by simpa using hnewline') hnewline

/-- A carriage return is read only in front of a line feed. -/
theorem ne_return_of_kept {char : Char} (hkept : isPlain char = true ∨ char = '\n') :
    char ≠ '\r' := by
  rintro rfl
  rcases hkept with hplain | hnewline
  · exact absurd hplain (by decide)
  · exact absurd hnewline (by decide)

theorem toNat_lt_of_isCode {char : Char} (hcode : isCode char = true) : char.toNat < 128 := by
  rw [isCode, Bool.and_eq_true, Bool.not_eq_true', ← Bool.not_eq_true, isPlain_iff] at hcode
  omega

/-- The four digits of an ASCII character. -/
theorem exists_digits_of_lt {char : Char} (hchar : char.toNat < 128) :
    ∃ a b c d, Hex.upper 4 char.toNat = [a, b, c, d] ∧ numbered? [a, b, c, d] = some char := by
  have hall : ∀ index : Fin 128, (Hex.upper 4 index.val).length = 4 ∧
      numbered? (Hex.upper 4 index.val) = some (Char.ofNat index.val) := by
    decide +kernel
  obtain ⟨hlength, hnumber⟩ := hall ⟨char.toNat, hchar⟩
  obtain ⟨a, b, c, d, hdigits⟩ : ∃ a b c d, Hex.upper 4 char.toNat = [a, b, c, d] := by
    match Hex.upper 4 char.toNat, hlength with
    | [a, b, c, d], _ => exact ⟨a, b, c, d, rfl⟩
  refine ⟨a, b, c, d, hdigits, ?_⟩
  rw [← hdigits, hnumber, Char.ofNat_toNat]

/-- What stands in a string for a character: an escape that gives the character, or the character
itself. -/
inductive WrittenAs (char : Char) : List Char → Prop where
  | letter (letter : Char) (hunescape : unescape? letter = some char) :
    WrittenAs char ['\\', letter]
  | digits (a b c d : Char) (hnumber : numbered? [a, b, c, d] = some char) :
    WrittenAs char ['\\', 'u', a, b, c, d]
  | itself (hplain : isPlain char = true) (hquote : char ≠ '"') (hbackslash : char ≠ '\\') :
    WrittenAs char [char]

theorem writtenAs_escape {char : Char} (hquote : char ≠ '"') :
    WrittenAs char ((escape? char).getD [char]) := by
  unfold escape?
  split
  · exact .letter 'b' rfl
  · exact .letter 't' rfl
  · exact .letter 'n' rfl
  · exact .letter 'f' rfl
  · exact .letter 'r' rfl
  · exact .letter '\\' rfl
  · rename_i hnewline _ _ hbackslash
    split
    · rename_i hcode
      obtain ⟨a, b, c, d, hdigits, hnumber⟩ := exists_digits_of_lt (toNat_lt_of_isCode hcode)
      rw [hdigits]
      exact .digits a b c d hnumber
    · rename_i hcode
      exact .itself (isPlain_of_not_isCode (Bool.not_eq_true _ ▸ hcode) hnewline) hquote hbackslash

theorem Quoted.put_put (read : Quoted) (inner outer : List Char) :
    (read.put inner).put outer = read.put (outer ++ inner) := by
  cases read with
  | none => rfl
  | some found => simp [Quoted.put]

/-- Up to two quotes stand for themselves in front of something else, in a reader for which a quote
does so unless two more follow. -/
theorem read_quotes {read : List Char → Quoted} {quote : Char}
    (hone : ∀ text, (∀ behind, text ≠ quote :: quote :: behind) →
      read (quote :: text) = (read text).put [quote])
    {run : Nat} (hrun : run ≤ 2) {next : Char} (hnext : next ≠ quote) (rest : List Char) :
    read (List.replicate run quote ++ next :: rest) =
      (read (next :: rest)).put (List.replicate run quote) := by
  have hfirst : ∀ behind, next :: rest ≠ quote :: behind := fun behind hsame =>
    hnext (List.cons.inj hsame).1
  match run, hrun with
  | 0, _ => cases hread : read (next :: rest) <;> simp [hread, Quoted.put]
  | 1, _ => exact hone _ fun behind => hfirst _
  | 2, _ =>
    change read (quote :: quote :: next :: rest) = _
    rw [hone _ fun behind hsame => hfirst _ (List.cons.inj hsame).2, hone _ fun behind => hfirst _,
      Quoted.put_put]
    rfl

/-- One more quote in front. -/
theorem replicate_append_cons (run : Nat) (quote : Char) (text : List Char) :
    List.replicate run quote ++ quote :: text = List.replicate (run + 1) quote ++ text := by
  rw [List.replicate_succ', List.append_assoc]
  rfl

/-! ## Between double quotes -/

theorem readBasic_writtenAs {char : Char} {written : List Char} (hwritten : WrittenAs char written)
    (rest : List Char) : readBasic (written ++ rest) = (readBasic rest).put [char] := by
  cases hwritten with
  | letter letter hunescape =>
    have hletter : letter ≠ 'u' ∧ letter ≠ 'U' := by
      constructor <;> rintro rfl <;> cases hunescape
    simp [readBasic, hletter, hunescape]
  | digits a b c d hnumber => simp [readBasic, hnumber]
  | itself hplain hquote hbackslash => simp [readBasic, hplain, hbackslash]

/-- Every text can be read back from between double quotes. -/
theorem readBasic_escapeAll (run : Nat) (chars rest : List Char) :
    readBasic (escapeAll false run chars ++ '"' :: rest) = some (chars, rest) := by
  induction chars generalizing run with
  | nil => rfl
  | cons char chars ih =>
    by_cases hquote : char = '"'
    · subst hquote
      change readBasic (['\\', '"'] ++ (escapeAll false 0 chars ++ '"' :: rest)) = _
      rw [readBasic_writtenAs (.letter '"' rfl), ih]
      rfl
    · rw [escapeAll, if_neg hquote, if_neg (by simp), List.append_assoc,
        readBasic_writtenAs (writtenAs_escape hquote), ih]
      rfl

/-! ## Between three double quotes -/

/-- A character that is not the first of the closing quotes stands for itself. -/
theorem readBasicLines_cons {char : Char} (hplain : isPlain char = true ∨ char = '\n')
    (hbackslash : char ≠ '\\') {rest : List Char}
    (hquotes : ∀ behind, char = '"' → rest ≠ '"' :: '"' :: behind) :
    readBasicLines (char :: rest) = (readBasicLines rest).put [char] := by
  have hkept : (isPlain char || char == '\n') = true := by simpa using hplain
  rw [readBasicLines, if_pos hkept]
  · exact fun behind hchar hrest => hquotes _ hchar hrest
  · exact fun behind hchar hrest => hquotes _ hchar hrest
  · exact fun behind hchar hrest => hquotes _ hchar hrest
  · exact fun _ _ _ _ _ hchar => absurd hchar hbackslash
  · exact fun _ _ _ _ _ _ _ _ _ hchar => absurd hchar hbackslash
  · exact hbackslash
  · exact fun _ hchar => absurd hchar (ne_return_of_kept hplain)

theorem readBasicLines_quote (text : List Char) (htext : ∀ behind, text ≠ '"' :: '"' :: behind) :
    readBasicLines ('"' :: text) = (readBasicLines text).put ['"'] :=
  readBasicLines_cons (.inl (by decide)) (by decide) fun behind _ => htext behind

/-- Both line ends are read as a line feed. -/
theorem readBasicLines_newline (behind : List Char) :
    readBasicLines ('\n' :: behind) = (readBasicLines behind).put ['\n'] ∧
      readBasicLines ('\r' :: '\n' :: behind) = (readBasicLines behind).put ['\n'] := by
  constructor
  · exact readBasicLines_cons (.inr rfl) (by decide) fun _ hquote => absurd hquote (by decide)
  · rw [readBasicLines]

theorem readBasicLines_writtenAs {char : Char} {written : List Char}
    (hwritten : WrittenAs char written) (rest : List Char) :
    readBasicLines (written ++ rest) = (readBasicLines rest).put [char] := by
  cases hwritten with
  | letter letter hunescape =>
    have hletter : letter ≠ 'u' ∧ letter ≠ 'U' := by
      constructor <;> rintro rfl <;> cases hunescape
    have hjoin : joinLines? (letter :: rest) = none := by
      unfold unescape? at hunescape
      split at hunescape
      all_goals first | rfl | cases hunescape
    rw [List.cons_append, List.singleton_append, readBasicLines]
    · split
      · rename_i joined hjoined
        rw [hjoin] at hjoined
        cases hjoined
      · change ((unescape? letter).bind _) = _
        rw [hunescape, Option.bind_some]
    · exact fun _ _ _ _ _ hsame => hletter.1 (List.cons.inj hsame).1
    · exact fun _ _ _ _ _ _ _ _ _ hsame => hletter.2 (List.cons.inj hsame).1
  | digits a b c d hnumber =>
    simp only [List.cons_append, List.nil_append, readBasicLines, hnumber, Option.bind_some]
  | itself hplain hquote hbackslash =>
    exact readBasicLines_cons (.inl hplain) hbackslash fun _ hchar => absurd hchar hquote

/-- Up to two quotes in front of the closing ones stand for themselves. -/
theorem readBasicLines_closing {run : Nat} (hrun : run ≤ 2) (rest : List Char) :
    readBasicLines (List.replicate run '"' ++ '"' :: '"' :: '"' :: '\n' :: rest) =
      some (List.replicate run '"', '\n' :: rest) := by
  match run, hrun with
  | 0, _ =>
    change readBasicLines ('"' :: '"' :: '"' :: '\n' :: rest) = _
    rw [readBasicLines]
    all_goals simp
  | 1, _ =>
    change readBasicLines ('"' :: '"' :: '"' :: '"' :: '\n' :: rest) = _
    rw [readBasicLines]
    all_goals simp
  | 2, _ =>
    change readBasicLines ('"' :: '"' :: '"' :: '"' :: '"' :: '\n' :: rest) = _
    rw [readBasicLines]
    all_goals simp

/-- What does not start with a quote and is read as a character. -/
structure Spells (written : List Char) (char : Char) : Prop where
  head_ne : ∃ first rest, written = first :: rest ∧ first ≠ '"'
  read_eq : ∀ rest, readBasicLines (written ++ rest) = (readBasicLines rest).put [char]

theorem spells_of_writtenAs {char : Char} {written : List Char}
    (hwritten : WrittenAs char written) : Spells written char := by
  refine ⟨?_, readBasicLines_writtenAs hwritten⟩
  cases hwritten with
  | letter letter hunescape => exact ⟨_, _, rfl, by decide⟩
  | digits a b c d hnumber => exact ⟨_, _, rfl, by decide⟩
  | itself hplain hquote hbackslash => exact ⟨_, _, rfl, hquote⟩

/-- A character is written as it is if it is a quote behind fewer than two others, and otherwise
starts afresh. -/
theorem escapeAll_cons_cases (run : Nat) (char : Char) (chars : List Char) :
    (char = '"' ∧ run < 2 ∧
      escapeAll true run (char :: chars) = '"' :: escapeAll true (run + 1) chars) ∨
    ∃ written, Spells written char ∧
      escapeAll true run (char :: chars) = written ++ escapeAll true 0 chars := by
  by_cases hquote : char = '"'
  · subst hquote
    by_cases hfree : run < 2
    · refine .inl ⟨rfl, hfree, ?_⟩
      rw [escapeAll, if_pos rfl, if_pos (by simpa using hfree)]
    · refine .inr ⟨['\\', '"'], spells_of_writtenAs (.letter '"' rfl), ?_⟩
      rw [escapeAll, if_pos rfl, if_neg (by simpa using hfree)]
      rfl
  · by_cases hnewline : char = '\n'
    · subst hnewline
      have hspells : Spells ['\n'] '\n' :=
        ⟨⟨_, _, rfl, by decide⟩, fun rest => (readBasicLines_newline rest).1⟩
      exact .inr ⟨_, hspells, rfl⟩
    · refine .inr ⟨_, spells_of_writtenAs (writtenAs_escape hquote), ?_⟩
      rw [escapeAll, if_neg hquote, if_neg (by simpa using hnewline)]

/-- Every text can be read back from between three double quotes.  The quotes in front of what is
still to be read, of which there are `run`, have not been read either. -/
theorem readBasicLines_escapeAll {run : Nat} (hrun : run ≤ 2) (chars rest : List Char) :
    readBasicLines (List.replicate run '"' ++
        (escapeAll true run chars ++ '"' :: '"' :: '"' :: '\n' :: rest)) =
      some (List.replicate run '"' ++ chars, '\n' :: rest) := by
  induction chars generalizing run with
  | nil =>
    rw [List.append_nil]
    exact readBasicLines_closing hrun rest
  | cons char chars ih =>
    rcases escapeAll_cons_cases run char chars with ⟨rfl, hfree, heq⟩ | ⟨written, hspells, heq⟩
    · rw [heq, List.cons_append, replicate_append_cons, ih hfree, replicate_append_cons]
    · obtain ⟨⟨first, tail, rfl, hne⟩, hread⟩ := hspells
      have hrest := ih (Nat.zero_le 2)
      rw [List.replicate_zero, List.nil_append, List.nil_append] at hrest
      rw [heq, List.append_assoc, List.cons_append, read_quotes readBasicLines_quote hrun hne,
        ← List.cons_append, hread, hrest]
      rfl

/-! ## Between single quotes -/

/-- A text without a single quote that holds no character that has to be escaped, nor a line end. -/
theorem readLiteral_append {chars : List Char}
    (hchars : ∀ char ∈ chars, isPlain char = true ∧ char ≠ '\'') (rest : List Char) :
    readLiteral (chars ++ '\'' :: rest) = some (chars, rest) := by
  induction chars with
  | nil => rfl
  | cons char chars ih =>
    obtain ⟨hplain, hquote⟩ := hchars char List.mem_cons_self
    have hrest := ih fun other hother => hchars other (List.mem_cons_of_mem char hother)
    rw [List.cons_append, readLiteral, if_pos hplain, hrest]
    · rfl
    · exact hquote

theorem readLiteralLines_cons {char : Char} (hplain : isPlain char = true ∨ char = '\n')
    {rest : List Char} (hquotes : ∀ behind, char = '\'' → rest ≠ '\'' :: '\'' :: behind) :
    readLiteralLines (char :: rest) = (readLiteralLines rest).put [char] := by
  have hkept : (isPlain char || char == '\n') = true := by simpa using hplain
  rw [readLiteralLines, if_pos hkept]
  · exact fun behind hchar hrest => hquotes _ hchar hrest
  · exact fun behind hchar hrest => hquotes _ hchar hrest
  · exact fun behind hchar hrest => hquotes _ hchar hrest
  · exact fun _ hchar => absurd hchar (ne_return_of_kept hplain)

theorem readLiteralLines_newline (behind : List Char) :
    readLiteralLines ('\n' :: behind) = (readLiteralLines behind).put ['\n'] ∧
      readLiteralLines ('\r' :: '\n' :: behind) = (readLiteralLines behind).put ['\n'] :=
  ⟨rfl, rfl⟩

theorem readLiteralLines_quote (text : List Char)
    (htext : ∀ behind, text ≠ '\'' :: '\'' :: behind) :
    readLiteralLines ('\'' :: text) = (readLiteralLines text).put ['\''] :=
  readLiteralLines_cons (.inl (by decide)) fun behind _ => htext behind

theorem readLiteralLines_closing {run : Nat} (hrun : run ≤ 2) (rest : List Char) :
    readLiteralLines (List.replicate run '\'' ++ '\'' :: '\'' :: '\'' :: '\n' :: rest) =
      some (List.replicate run '\'', '\n' :: rest) := by
  match run, hrun with
  | 0, _ => rfl
  | 1, _ => rfl
  | 2, _ => rfl

/-- A text can be read back if no three single quotes come together in it, those counted that stand
in front of what is still to be read. -/
theorem readLiteralLines_append {run : Nat} {chars : List Char}
    (hrun : longestRun '\'' run chars ≤ 2)
    (hchars : ∀ char ∈ chars, isPlain char = true ∨ char = '\n') (rest : List Char) :
    readLiteralLines (List.replicate run '\'' ++
        (chars ++ '\'' :: '\'' :: '\'' :: '\n' :: rest)) =
      some (List.replicate run '\'' ++ chars, '\n' :: rest) := by
  induction chars generalizing run with
  | nil =>
    rw [List.append_nil]
    exact readLiteralLines_closing hrun rest
  | cons char chars ih =>
    have hothers := fun other hother => hchars other (List.mem_cons_of_mem char hother)
    rw [longestRun] at hrun
    by_cases hquote : char = '\''
    · subst hquote
      rw [if_pos rfl] at hrun
      rw [List.cons_append, replicate_append_cons, ih hrun hothers, replicate_append_cons]
    · rw [if_neg hquote, Nat.max_le] at hrun
      have hrest := ih hrun.2 hothers
      rw [List.replicate_zero, List.nil_append, List.nil_append] at hrest
      rw [List.cons_append, read_quotes readLiteralLines_quote hrun.1 hquote,
        readLiteralLines_cons (hchars char List.mem_cons_self) fun _ hsame => absurd hsame hquote,
        hrest]
      rfl

/-! ## The kind of string -/

theorem le_longestRun (quote : Char) (run : Nat) (chars : List Char) :
    run ≤ longestRun quote run chars := by
  induction chars generalizing run with
  | nil => exact Nat.le_refl _
  | cons char chars ih =>
    rw [longestRun]
    split
    · exact Nat.le_of_succ_le (ih (run + 1))
    · exact Nat.le_max_left _ _

theorem not_mem_of_longestRun {quote : Char} {run : Nat} {chars : List Char}
    (hrun : longestRun quote run chars = 0) : quote ∉ chars := by
  induction chars generalizing run with
  | nil => exact List.not_mem_nil
  | cons char chars ih =>
    rw [longestRun] at hrun
    split at hrun
    · have hless := le_longestRun quote (run + 1) chars
      omega
    · rename_i hne
      rw [Nat.max_eq_zero_iff] at hrun
      rw [List.mem_cons, not_or]
      exact ⟨Ne.symm hne, ih hrun.2⟩

theorem isPlain_or_newline {chars : List Char} (hcodes : chars.any isCode = false) :
    ∀ char ∈ chars, isPlain char = true ∨ char = '\n' := by
  intro char hchar
  have hcode := List.any_eq_false.mp hcodes char hchar
  by_cases hnewline : char = '\n'
  · exact .inr hnewline
  · exact .inl (isPlain_of_not_isCode (Bool.not_eq_true _ ▸ hcode) hnewline)

theorem of_style_literal {chars : List Char} (hstyle : Style.ofText chars = .literal) :
    ∀ char ∈ chars, isPlain char = true ∧ char ≠ '\'' := by
  unfold Style.ofText at hstyle
  dsimp only at hstyle
  repeat' split at hstyle
  all_goals try cases hstyle
  rename_i hliteral
  simp only [Bool.and_eq_true, Bool.not_eq_true', decide_eq_true_eq, List.contains_eq_mem,
    decide_eq_false_iff_not] at hliteral
  obtain ⟨⟨hcodes, hnewline⟩, hsingle⟩ := hliteral
  intro char hchar
  refine ⟨?_, fun hquote => not_mem_of_longestRun hsingle (hquote ▸ hchar)⟩
  rcases isPlain_or_newline hcodes char hchar with hplain | rfl
  · exact hplain
  · exact absurd hchar hnewline

theorem of_style_literalLines {chars : List Char} (hstyle : Style.ofText chars = .literalLines) :
    longestRun '\'' 0 chars ≤ 2 ∧ ∀ char ∈ chars, isPlain char = true ∨ char = '\n' := by
  unfold Style.ofText at hstyle
  dsimp only at hstyle
  repeat' split at hstyle
  all_goals try cases hstyle
  rename_i hliteral
  simp only [Bool.and_eq_true, Bool.not_eq_true', decide_eq_true_eq] at hliteral
  exact ⟨hliteral.2, isPlain_or_newline hliteral.1⟩

theorem of_newline?_eq_some {text behind : List Char} (hnewline : newline? text = some behind) :
    text = '\n' :: behind ∨ text = '\r' :: '\n' :: behind := by
  unfold newline? at hnewline
  split at hnewline
  · exact .inl (Option.some.inj hnewline ▸ rfl)
  · exact .inr (Option.some.inj hnewline ▸ rfl)
  · cases hnewline

/-- A line end behind the opening quotes is dropped, and one is put there if the text has any.  If
it has none, what follows cannot start with one, because it would be read. -/
theorem dropNewline_opening {read : List Char → Quoted}
    (hline : ∀ behind, read ('\n' :: behind) = (read behind).put ['\n'] ∧
      read ('\r' :: '\n' :: behind) = (read behind).put ['\n'])
    {text chars rest : List Char} (hread : read text = some (chars, rest)) :
    dropNewline ((if chars.contains '\n' then ['\n'] else []) ++ text) = text := by
  by_cases hnewline : '\n' ∈ chars
  · rw [if_pos (by simpa using hnewline)]
    rfl
  · rw [if_neg (by simpa using hnewline), List.nil_append, dropNewline]
    cases hfirst : newline? text with
    | none => rfl
    | some behind =>
      exfalso
      have hput : read text = (read behind).put ['\n'] := by
        rcases of_newline?_eq_some hfirst with rfl | rfl
        · exact (hline behind).1
        · exact (hline behind).2
      rw [hread] at hput
      cases hbehind : read behind with
      | none =>
        rw [hbehind] at hput
        cases hput
      | some found =>
        rw [hbehind] at hput
        cases hput
        exact hnewline List.mem_cons_self

/-- A text that was written on the rest of a line is read back. -/
theorem readString_writeText (text : String) (rest : List Char) :
    readString (writeText text ++ '\n' :: rest) = some (text.toList, '\n' :: rest) := by
  rw [writeText]
  generalize text.toList = chars
  -- Where an empty string could be taken for three quotes, another quote would be left over.
  cases hstyle : Style.ofText chars with
  | basic =>
    have hread := readBasic_escapeAll 0 chars ('\n' :: rest)
    simp only [Style.delimiter, Style.hasLines, List.append_assoc]
    change readString ('"' :: (escapeAll false 0 chars ++ '"' :: '\n' :: rest)) = _
    rw [readString, hread]
    intro behind hquotes
    rw [hquotes] at hread
    cases hread
  | literal =>
    have hread := readLiteral_append (of_style_literal hstyle) ('\n' :: rest)
    simp only [Style.delimiter, Style.hasLines, List.append_assoc]
    change readString ('\'' :: (chars ++ '\'' :: '\n' :: rest)) = _
    rw [readString, hread]
    intro behind hquotes
    rw [hquotes] at hread
    cases hread
  | basicLines =>
    have hread := readBasicLines_escapeAll (Nat.zero_le 2) chars rest
    rw [List.replicate_zero, List.nil_append, List.nil_append] at hread
    simp only [Style.delimiter, Style.hasLines, List.append_assoc]
    change readString ('"' :: '"' :: '"' :: ((if chars.contains '\n' then ['\n'] else []) ++
      (escapeAll true 0 chars ++ '"' :: '"' :: '"' :: '\n' :: rest))) = _
    rw [readString, dropNewline_opening readBasicLines_newline hread, hread]
  | literalLines =>
    obtain ⟨hrun, hplain⟩ := of_style_literalLines hstyle
    have hread := readLiteralLines_append hrun hplain rest
    rw [List.replicate_zero, List.nil_append, List.nil_append] at hread
    simp only [Style.delimiter, Style.hasLines, List.append_assoc]
    change readString ('\'' :: '\'' :: '\'' :: ((if chars.contains '\n' then ['\n'] else []) ++
      (chars ++ '\'' :: '\'' :: '\'' :: '\n' :: rest))) = _
    rw [readString, dropNewline_opening readLiteralLines_newline hread, hread]

end SmbExchange.Toml

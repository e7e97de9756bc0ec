import SmbExchange.Proofs.Toml.Numbers
import SmbExchange.Proofs.Toml.Strings
import SmbExchange.Toml.Codec

/-!
# Documents that are written and read back

A document is written line by line, and so it is read: what is written for an
entry or a header is one line to the reader, whatever follows.  The lines then
make the tables that were written, provided that no two sections and no two
entries of a section share a name.  The only thing that cannot be written is a
number of more than 63 bits.  This is what `Codec.Lawful` asks of any writer and
reader together.
-/

namespace SmbExchange.Toml

/-! ## Names -/

theorem exists_first_writeName (name : String) :
    ∃ first others, writeName name = first :: others ∧ (first = '"' ∨ isBare first = true) := by
  rw [writeName]
  split
  · rename_i hbare
    rw [Bool.and_eq_true, Bool.not_eq_true', List.isEmpty_eq_false_iff] at hbare
    obtain ⟨first, others, hchars⟩ := List.exists_cons_of_ne_nil hbare.1
    refine ⟨first, others, hchars, .inr (List.all_eq_true.mp hbare.2 first ?_)⟩
    rw [hchars]
    exact List.mem_cons_self
  · exact ⟨'"', _, rfl, .inl rfl⟩

/-- Most characters that are not bare do not start a name. -/
theorem ne_of_first {first char : Char} (hfirst : first = '"' ∨ isBare first = true)
    (hchar : char ≠ '"' ∧ isBare char = false) : first ≠ char := by
  rintro rfl
  rcases hfirst with rfl | hbare
  · exact hchar.1 rfl
  · rw [hchar.2] at hbare
    cases hbare

/-- A name ends where something stands that cannot belong to it. -/
theorem readName_writeName (name : String) {next : Char} (hnext : isBare next = false)
    (rest : List Char) : readName (writeName name ++ next :: rest) = some (name, next :: rest) := by
  rw [writeName]
  split
  · rename_i hbare
    rw [Bool.and_eq_true, Bool.not_eq_true', List.isEmpty_eq_false_iff] at hbare
    obtain ⟨hne, hall⟩ := hbare
    have hchars := List.all_eq_true.mp hall
    obtain ⟨first, others, hfirst⟩ := List.exists_cons_of_ne_nil hne
    have hquote : ∀ quote, isBare quote = false → first ≠ quote := by
      rintro quote hquote rfl
      rw [hchars first (hfirst ▸ List.mem_cons_self)] at hquote
      cases hquote
    have hspan : (name.toList ++ next :: rest).span isBare = (name.toList, next :: rest) := by
      rw [List.span_eq_takeWhile_dropWhile, List.takeWhile_append_of_pos hchars,
        List.dropWhile_append_of_pos hchars, List.takeWhile_cons_of_neg (by simp [hnext]),
        List.dropWhile_cons_of_neg (by simp [hnext]), List.append_nil]
    rw [hfirst] at hspan
    rw [hfirst, List.cons_append, readName]
    · rw [← List.cons_append, hspan]
      dsimp only
      rw [← hfirst, String.ofList_toList]
    · exact fun _ hsame => hquote '"' (by decide) (List.cons.inj hsame).1
    · exact fun _ hsame => hquote '\'' (by decide) (List.cons.inj hsame).1
  · change readName ('"' :: (escapeAll false 0 name.toList ++ ['"'] ++ next :: rest)) = _
    rw [List.append_assoc, readName]
    change (readBasic (escapeAll false 0 name.toList ++ '"' :: next :: rest)).map _ = _
    rw [readBasic_escapeAll, Option.map_some]
    change some (String.ofList name.toList, _) = _
    rw [String.ofList_toList]

theorem isBlank_eq_false_iff (char : Char) : isBlank char = false ↔ char ≠ ' ' ∧ char ≠ '\t' := by
  simp [isBlank]

theorem skipBlanks_cons {first : Char} (hfirst : isBlank first = false) (rest : List Char) :
    skipBlanks (first :: rest) = first :: rest := by
  rw [skipBlanks, List.dropWhile_cons_of_neg (by simp [hfirst])]

theorem isBlank_of_first {first : Char} (hfirst : first = '"' ∨ isBare first = true) :
    isBlank first = false :=
  (isBlank_eq_false_iff first).mpr
    ⟨ne_of_first hfirst (by decide), ne_of_first hfirst (by decide)⟩

theorem skipBlanks_writeName (name : String) (behind : List Char) :
    skipBlanks (writeName name ++ behind) = writeName name ++ behind := by
  obtain ⟨first, others, hname, hfirst⟩ := exists_first_writeName name
  rw [hname, List.cons_append, skipBlanks_cons (isBlank_of_first hfirst)]

/-- A key of one name, with what is left behind the blanks that follow. -/
theorem readKey_writeName (name : String) {next : Char} (hnext : isBare next = false)
    {rest behind : List Char} {last : Char} (hbehind : skipBlanks (next :: rest) = last :: behind)
    (hdot : last ≠ '.') :
    readKey (writeName name ++ next :: rest) = some ([name], last :: behind) := by
  rw [readKey, depthLimit, readNames, skipBlanks_writeName, readName_writeName name hnext]
  simp only [bind, Option.bind, hbehind]
  split
  · rename_i hsame
    exact absurd (List.cons.inj hsame).1 hdot
  · rfl

/-! ## Values -/

theorem exists_first_writeText (text : String) :
    ∃ first others, writeText text = first :: others ∧ (first = '"' ∨ first = '\'') := by
  rw [writeText]
  cases Style.ofText text.toList
  · exact ⟨_, _, rfl, .inl rfl⟩
  · exact ⟨_, _, rfl, .inr rfl⟩
  · exact ⟨_, _, rfl, .inl rfl⟩
  · exact ⟨_, _, rfl, .inr rfl⟩

/-- What is written for a value starts with none of the characters on which the reader turns to a
table or an array, or to nothing at all. -/
theorem exists_first_write {value : Scalar} {written : List Char}
    (hwritten : value.write? = some written) :
    ∃ first others, written = first :: others ∧
      isBlank first = false ∧ first ≠ '[' ∧ first ≠ '\x7b' := by
  cases value with
  | text value =>
    obtain rfl := Option.some.inj hwritten
    obtain ⟨first, others, htext, hquote⟩ := exists_first_writeText value
    refine ⟨first, others, htext, ?_⟩
    rcases hquote with rfl | rfl <;> decide
  | number value =>
    rw [Scalar.write?] at hwritten
    split at hwritten
    · obtain rfl := Option.some.inj hwritten
      have hdecimal := isDecimal_toDigits value
      obtain ⟨first, others, hdigits⟩ := List.exists_cons_of_ne_nil hdecimal.ne_nil
      have hfirst := hdecimal.isDigit first (hdigits ▸ List.mem_cons_self)
      refine ⟨first, others, hdigits, (isBlank_eq_false_iff first).mpr ⟨?_, ?_⟩, ?_, ?_⟩
      all_goals
        rintro rfl
        exact absurd hfirst (by decide)
    · cases hwritten
  | truth value =>
    cases value <;> cases hwritten <;> exact ⟨_, _, rfl, by decide, by decide, by decide⟩

/-- A value that was written on the rest of a line is read back. -/
theorem readScalar_write {value : Scalar} {written : List Char}
    (hwritten : value.write? = some written) (rest : List Char) :
    readScalar (written ++ '\n' :: rest) = some (value.toValue, '\n' :: rest) := by
  cases value with
  | text value =>
    obtain rfl := Option.some.inj hwritten
    have hread := readString_writeText value rest
    obtain ⟨first, others, htext, hquote⟩ := exists_first_writeText value
    rw [htext, List.cons_append] at hread ⊢
    rw [readScalar, if_pos (by simpa using hquote), hread, Option.map_some]
    · change some (Value.string (String.ofList value.toList), _) = _
      rw [String.ofList_toList]
      rfl
    · rintro behind rfl
      rcases hquote with hquote | hquote <;> cases hquote
    · rintro behind rfl
      rcases hquote with hquote | hquote <;> cases hquote
  | number value =>
    rw [Scalar.write?] at hwritten
    split at hwritten
    · rename_i hvalue
      obtain rfl := Option.some.inj hwritten
      exact readScalar_toDigits hvalue rest
    · cases hwritten
  | truth value => cases value <;> cases hwritten <;> rfl

theorem readValue_write {value : Scalar} {written : List Char}
    (hwritten : value.write? = some written) (fuel depth : Nat) (rest : List Char) :
    readValue (fuel + 1) depth (written ++ '\n' :: rest) =
      some (value.toValue, '\n' :: rest) := by
  rw [← readScalar_write hwritten rest]
  obtain ⟨first, others, rfl, -, hbracket, hbrace⟩ := exists_first_write hwritten
  rw [List.cons_append, readValue]
  · exact fun behind hsame => hbracket (List.cons.inj hsame).1
  · exact fun behind hsame => hbrace (List.cons.inj hsame).1

/-! ## Lines -/

/-- A text is read as lines, whatever fuel there is beyond one for each character. -/
def ReadsAs (chars : List Char) (lines : List Line) : Prop :=
  ∀ fuel, chars.length < fuel → readLines fuel chars = some lines

theorem readsAs_nil : ReadsAs [] [] := by
  rintro (_ | fuel) hfuel
  · exact absurd hfuel (Nat.not_lt_zero _)
  · rw [readLines]
    rfl

theorem ReadsAs.newline {rest : List Char} {lines : List Line} (hrest : ReadsAs rest lines) :
    ReadsAs ('\n' :: rest) lines := by
  rintro (_ | fuel) hfuel
  · exact absurd hfuel (Nat.not_lt_zero _)
  · rw [readLines]
    exact hrest fuel (Nat.lt_of_succ_lt_succ hfuel)

theorem readPair?_writeEntry? {entry : String × Scalar} {written : List Char}
    (hwritten : Section.writeEntry? entry = some written) (rest : List Char) :
    readPair? (written ++ rest) = some (.pair [entry.1] entry.2.toValue, rest) := by
  rw [Section.writeEntry?, Option.map_eq_some_iff] at hwritten
  obtain ⟨value, hvalue, rfl⟩ := hwritten
  have hread := readValue_write hvalue
  have hblanks : skipBlanks (' ' :: (value ++ '\n' :: rest)) = value ++ '\n' :: rest := by
    obtain ⟨first, others, rfl, hblank, -, -⟩ := exists_first_write hvalue
    exact skipBlanks_cons hblank (others ++ '\n' :: rest)
  simp only [List.append_assoc, List.cons_append, List.nil_append]
  rw [readPair?, readKey_writeName entry.1 (by decide) rfl (by decide)]
  simp only [Option.bind_eq_bind, Option.bind_some]
  rw [hblanks, hread]
  rfl

theorem readHeader?_writeName (name : String) (rest : List Char) :
    readHeader? false (writeName name ++ ']' :: '\n' :: rest) = some (.header [name], rest) := by
  rw [readHeader?, readKey_writeName name (by decide) (skipBlanks_cons (by decide) _) (by decide)]
  rfl

/-- What starts like a name is neither a comment, nor a header, nor a line end. -/
theorem readLines_of_first {first : Char} (hfirst : first = '"' ∨ isBare first = true)
    (fuel : Nat) (others : List Char) :
    readLines (fuel + 1) (first :: others) =
      (readPair? (first :: others)).bind (readLines.next fuel) := by
  rw [readLines, skipBlanks_cons (isBlank_of_first hfirst)]
  split
  case h_1 hnil => cases hnil
  case h_7 => rfl
  all_goals
    rename_i hsame
    exact absurd (List.cons.inj hsame).1 (ne_of_first hfirst (by decide))

theorem ReadsAs.entry {rest : List Char} {lines : List Line} (hrest : ReadsAs rest lines)
    {entry : String × Scalar} {written : List Char}
    (hwritten : Section.writeEntry? entry = some written) :
    ReadsAs (written ++ rest) (.pair [entry.1] entry.2.toValue :: lines) := by
  have hpair := readPair?_writeEntry? hwritten rest
  rw [Section.writeEntry?, Option.map_eq_some_iff] at hwritten
  obtain ⟨value, -, rfl⟩ := hwritten
  obtain ⟨first, others, hname, hfirst⟩ := exists_first_writeName entry.1
  simp only [hname, List.cons_append] at hpair ⊢
  rintro (_ | fuel) hfuel
  · exact absurd hfuel (Nat.not_lt_zero _)
  · simp only [List.length_cons, List.length_append] at hfuel
    rw [readLines_of_first hfirst, hpair, Option.bind_some, readLines.next, hrest fuel (by omega)]
    rfl

/-- One bracket in front of a name opens the header of a single table. -/
theorem readLines_bracket {first : Char} (hfirst : first = '"' ∨ isBare first = true)
    (fuel : Nat) (others : List Char) :
    readLines (fuel + 1) ('[' :: first :: others) =
      (readHeader? false (first :: others)).bind (readLines.next fuel) := by
  rw [readLines, skipBlanks_cons (by decide)]
  split
  case h_3 hsame =>
    exact absurd (List.cons.inj (List.cons.inj hsame).2).1 (ne_of_first hfirst (by decide))
  case h_4 hsame =>
    obtain rfl := (List.cons.inj hsame).2
    rfl
  case h_7 hnone _ _ => exact absurd rfl (hnone _)
  all_goals
    rename_i hsame
    cases hsame

theorem ReadsAs.header {rest : List Char} {lines : List Line} (hrest : ReadsAs rest lines)
    (name : String) :
    ReadsAs ('[' :: (writeName name ++ ']' :: '\n' :: rest)) (.header [name] :: lines) := by
  have hheader := readHeader?_writeName name rest
  obtain ⟨first, others, hname, hfirst⟩ := exists_first_writeName name
  simp only [hname, List.cons_append] at hheader ⊢
  rintro (_ | fuel) hfuel
  · exact absurd hfuel (Nat.not_lt_zero _)
  · simp only [List.length_cons, List.length_append] at hfuel
    rw [readLines_bracket hfirst, hheader, Option.bind_some, readLines.next,
      hrest fuel (by omega)]
    rfl

namespace Section

def entryLine (entry : String × Scalar) : Line :=
  .pair [entry.1] entry.2.toValue

def lines (part : Section) : List Line :=
  .header [part.name] :: part.entries.map entryLine

end Section

theorem ReadsAs.entries {rest : List Char} {lines : List Line} (hrest : ReadsAs rest lines)
    {entries : List (String × Scalar)} {texts : List (List Char)}
    (hwritten : entries.mapM Section.writeEntry? = some texts) :
    ReadsAs (texts.flatten ++ rest) (entries.map Section.entryLine ++ lines) := by
  induction entries generalizing texts with
  | nil =>
    rw [List.mapM_nil] at hwritten
    cases hwritten
    exact hrest
  | cons entry entries ih =>
    simp only [List.mapM_cons, Option.bind_eq_bind, Option.bind_eq_some_iff] at hwritten
    obtain ⟨text, htext, others, hothers, hsame⟩ := hwritten
    cases hsame
    rw [List.flatten_cons, List.append_assoc]
    exact (ih hothers).entry htext

theorem ReadsAs.part {rest : List Char} {lines : List Line} (hrest : ReadsAs rest lines)
    {part : Section} {written : List Char} (hwritten : part.write? = some written) :
    ReadsAs (written ++ rest) (part.lines ++ lines) := by
  simp only [Section.write?, Option.bind_eq_bind, Option.bind_eq_some_iff] at hwritten
  obtain ⟨texts, htexts, hsame⟩ := hwritten
  cases hsame
  simp only [List.append_assoc, List.cons_append, List.nil_append]
  exact (hrest.entries htexts).header part.name

/-- The blank line between two sections says nothing. -/
theorem readsAs_intercalate {parts : List Section} {texts : List (List Char)}
    (hwritten : parts.mapM Section.write? = some texts) :
    ReadsAs (['\n'].intercalate texts) (parts.flatMap Section.lines) := by
  induction parts generalizing texts with
  | nil =>
    rw [List.mapM_nil] at hwritten
    cases hwritten
    exact readsAs_nil
  | cons part parts ih =>
    simp only [List.mapM_cons, Option.bind_eq_bind, Option.bind_eq_some_iff] at hwritten
    obtain ⟨text, htext, others, hothers, hsame⟩ := hwritten
    cases hsame
    have hrest := ih hothers
    rw [List.flatMap_cons]
    cases others with
    | nil =>
      rw [List.intercalate_singleton, ← List.append_nil text]
      exact hrest.part htext
    | cons next others =>
      rw [List.intercalate_cons_cons, List.append_assoc]
      exact hrest.newline.part htext

/-! ## Tables -/

namespace Section

/-- An entry as it stands in a table that is being built. -/
def entryNode (entry : String × Scalar) : String × Node :=
  (entry.1, .leaf entry.2.toValue)

def node (part : Section) : String × Node :=
  (part.name, .table false false (part.entries.map entryNode))

/-- No two entries share a name. -/
def IsDistinct (part : Section) : Prop :=
  (part.entries.map Prod.fst).Nodup

end Section

theorem lookup_eq_none {nodes : Nodes} {name : String} (hname : name ∉ nodes.map Prod.fst) :
    nodes.lookup name = none := by
  rw [List.lookup_eq_none_iff]
  intro entry hentry
  have hne : name ≠ entry.1 := fun hsame => hname (hsame ▸ List.mem_map_of_mem hentry)
  simpa using hne

theorem not_mem_of_nodup {names others : List String} {name : String}
    (hnames : (names ++ name :: others).Nodup) : name ∉ names :=
  fun hname => (List.nodup_append.mp hnames).2.2 name hname name List.mem_cons_self rfl

/-- A key of one name sets a value in a table, if there is none under this name. -/
theorem assign_singleton {nodes : Nodes} {name : String} (hname : name ∉ nodes.map Prod.fst)
    (value : Value) : nodes.assign [name] value = some (nodes ++ [(name, .leaf value)]) := by
  change nodes.add name (.leaf value) = _
  rw [Nodes.add, lookup_eq_none hname]

theorem foldlM_extend_entries {root current : Nodes} {place : Option (List String × Bool)}
    {entries : List (String × Scalar)}
    (hnames : (current.map Prod.fst ++ entries.map Prod.fst).Nodup) :
    (entries.map Section.entryLine).foldlM Draft.extend ⟨root, current, place⟩ =
      some ⟨root, current ++ entries.map Section.entryNode, place⟩ := by
  induction entries generalizing current with
  | nil =>
    rw [List.map_nil, List.map_nil, List.append_nil]
    rfl
  | cons entry entries ih =>
    have hentry : entry.1 ∉ current.map Prod.fst := not_mem_of_nodup hnames
    have hextend : Draft.extend ⟨root, current, place⟩ (Section.entryLine entry) =
        some ⟨root, current ++ [Section.entryNode entry], place⟩ := by
      change (current.assign [entry.1] entry.2.toValue).bind _ = _
      rw [assign_singleton hentry]
      rfl
    have hothers : ((current ++ [Section.entryNode entry]).map Prod.fst ++
        entries.map Prod.fst).Nodup := by
      rw [List.map_append, List.append_assoc]
      exact hnames
    rw [List.map_cons, List.foldlM_cons, hextend]
    change List.foldlM Draft.extend _ _ = _
    rw [ih hothers, List.append_assoc]
    rfl

/-- The parent of a table of the document is the document. -/
theorem updateParent_single (nodes : Nodes) (name : String)
    (change : String → Nodes → Option Nodes) :
    Draft.updateParent nodes [name] change = change name nodes := by
  rw [Draft.updateParent, List.getLast?_singleton, List.dropLast_singleton, Option.bind_eq_bind,
    Option.bind_some, Nodes.update]

/-- A header under a new name finishes the table before it, and starts an empty one. -/
theorem extend_header {draft : Draft} {done : Nodes} (hclose : draft.close = some done)
    {name : String} (hname : name ∉ done.map Prod.fst) :
    draft.extend (.header [name]) = some ⟨done, [], some ([name], false)⟩ := by
  have hlookup := lookup_eq_none hname
  have hentries : Draft.entriesAt [name] done = [] := by
    rw [Draft.entriesAt, hlookup]
  have htake : Draft.takeOut? done [name] = some done := by
    rw [Draft.takeOut?, updateParent_single]
    simp only [hlookup]
  rw [Draft.extend, hclose]
  change (Draft.takeOut? done [name]).bind _ = _
  rw [htake]
  change some (Draft.mk done (Draft.entriesAt [name] done) _) = _
  rw [hentries]

theorem close_at (root current : Nodes) (name : String) :
    Draft.close ⟨root, current, some ([name], false)⟩ =
      some (root ++ [(name, .table false false current)]) :=
  updateParent_single root name _

/-- What has been finished when the lines of some sections have been read. -/
theorem exists_foldlM_extend {parts : List Section} {draft : Draft} {done : Nodes}
    (hclose : draft.close = some done)
    (hnames : (done.map Prod.fst ++ parts.map Section.name).Nodup)
    (hdistinct : ∀ part ∈ parts, part.IsDistinct) :
    ∃ last, (parts.flatMap Section.lines).foldlM Draft.extend draft = some last ∧
      last.close = some (done ++ parts.map Section.node) := by
  induction parts generalizing draft done with
  | nil => exact ⟨draft, rfl, by rw [hclose, List.map_nil, List.append_nil]⟩
  | cons part parts ih =>
    have hname : part.name ∉ done.map Prod.fst := not_mem_of_nodup hnames
    have hpart : part.lines.foldlM Draft.extend draft =
        some ⟨done, part.entries.map Section.entryNode, some ([part.name], false)⟩ := by
      rw [Section.lines, List.foldlM_cons, extend_header hclose hname]
      change List.foldlM Draft.extend _ _ = _
      exact foldlM_extend_entries (hdistinct part List.mem_cons_self)
    have hothers : ((done ++ [part.node]).map Prod.fst ++ parts.map Section.name).Nodup := by
      rw [List.map_append, List.append_assoc]
      exact hnames
    obtain ⟨last, hlast, hdone⟩ := ih (close_at done _ part.name) hothers
      fun other hother => hdistinct other (List.mem_cons_of_mem part hother)
    refine ⟨last, ?_, ?_⟩
    · rw [List.flatMap_cons, List.foldlM_append, hpart]
      exact hlast
    · rw [hdone, List.append_assoc]
      rfl

def Section.toEntry (part : Section) : String × Value :=
  (part.name, .table (part.entries.map fun entry => (entry.1, entry.2.toValue)))

theorem toEntries_entryNode (entries : List (String × Scalar)) :
    Nodes.toEntries (entries.map Section.entryNode) =
      entries.map fun entry => (entry.1, entry.2.toValue) := by
  induction entries with
  | nil => rw [List.map_nil, Nodes.toEntries, List.map_nil]
  | cons entry entries ih =>
    rw [List.map_cons, Section.entryNode, Nodes.toEntries, Node.toValue, ih, List.map_cons]

theorem toEntries_node (parts : List Section) :
    Nodes.toEntries (parts.map Section.node) = parts.map Section.toEntry := by
  induction parts with
  | nil => rw [List.map_nil, Nodes.toEntries, List.map_nil]
  | cons part parts ih =>
    rw [List.map_cons, Section.node, Nodes.toEntries, Node.toValue, toEntries_entryNode, ih,
      List.map_cons]
    rfl

/-- Lines that were written for sections make the tables that these are. -/
theorem entriesOf?_lines {parts : List Section} (hnames : (parts.map Section.name).Nodup)
    (hdistinct : ∀ part ∈ parts, part.IsDistinct) :
    entriesOf? (parts.flatMap Section.lines) = some (parts.map Section.toEntry) := by
  have hempty : Draft.empty.close = some [] := rfl
  obtain ⟨last, hlast, hclose⟩ := exists_foldlM_extend hempty hnames hdistinct
  rw [entriesOf?, hlast, ← toEntries_node]
  change last.close.bind _ = _
  rw [hclose]
  rfl

/-! ## Documents -/

/-- A number is small enough to be written. -/
def Scalar.IsSmall : Scalar → Prop
  | .number value => value < integerBound
  | .text _ | .truth _ => True

@[simp]
theorem Scalar.isSmall_text (value : String) : (text value).IsSmall :=
  trivial

@[simp]
theorem Scalar.isSmall_number (value : Nat) : (number value).IsSmall ↔ value < integerBound :=
  Iff.rfl

@[simp]
theorem Scalar.isSmall_truth (value : Bool) : (truth value).IsSmall :=
  trivial

theorem Scalar.isSome_write?_iff (value : Scalar) : value.write?.isSome = true ↔ value.IsSmall := by
  cases value with
  | text value => simp [write?]
  | number value =>
    rw [write?, isSmall_number]
    split <;> simp_all
  | truth value => cases value <;> simp [write?]

theorem isSome_mapM_iff {α β : Type} {write : α → Option β} {items : List α} :
    (items.mapM write).isSome = true ↔ ∀ item ∈ items, (write item).isSome = true := by
  induction items with
  | nil => simp
  | cons item items ih =>
    rw [List.mapM_cons, List.forall_mem_cons, ← ih]
    cases write item with
    | none => simp
    | some value => cases items.mapM write <;> simp

theorem Section.isSome_write?_iff (part : Section) :
    part.write?.isSome = true ↔ ∀ entry ∈ part.entries, entry.2.IsSmall := by
  have hentry : ∀ entry : String × Scalar,
      (Section.writeEntry? entry).isSome = true ↔ entry.2.IsSmall := fun entry => by
    rw [Section.writeEntry?, Option.isSome_map, Scalar.isSome_write?_iff]
  simp only [← hentry, ← isSome_mapM_iff, Section.write?]
  cases part.entries.mapM Section.writeEntry? <;> simp

/-- Only large numbers keep a document from being written. -/
theorem isSome_write?_iff (parts : List Section) :
    (write? parts).isSome = true ↔ ∀ part ∈ parts, ∀ entry ∈ part.entries, entry.2.IsSmall := by
  simp only [← Section.isSome_write?_iff, ← isSome_mapM_iff, write?]
  cases parts.mapM Section.write? <;> simp

/-- No byte order mark is written. -/
theorem dropByteOrderMark_intercalate {parts : List Section} {texts : List (List Char)}
    (hwritten : parts.mapM Section.write? = some texts) :
    dropByteOrderMark (['\n'].intercalate texts) = ['\n'].intercalate texts := by
  cases parts with
  | nil =>
    rw [List.mapM_nil] at hwritten
    cases hwritten
    rfl
  | cons part parts =>
    simp only [List.mapM_cons, Option.bind_eq_bind, Option.bind_eq_some_iff, Section.write?]
      at hwritten
    obtain ⟨_, ⟨lines, -, hline⟩, others, -, hsame⟩ := hwritten
    cases hline
    cases hsame
    cases others with
    | nil =>
      rw [List.intercalate_singleton]
      rfl
    | cons next others =>
      rw [List.intercalate_cons_cons]
      rfl

/-- A document that was written is read back as the tables that were written. -/
theorem ofText?_of_write? {parts : List Section} {text : String}
    (hwritten : write? parts = some text) (hnames : (parts.map Section.name).Nodup)
    (hdistinct : ∀ part ∈ parts, part.IsDistinct) :
    Entries.ofText? text = some (parts.map Section.toEntry) := by
  simp only [write?, Option.bind_eq_bind, Option.bind_eq_some_iff] at hwritten
  obtain ⟨texts, htexts, hsame⟩ := hwritten
  cases hsame
  have hlines := readsAs_intercalate htexts _ (Nat.lt_succ_self _)
  rw [Entries.ofText?, String.toList_ofList, dropByteOrderMark_intercalate htexts, hlines]
  exact entriesOf?_lines hnames hdistinct

/-! ## Lawful codecs -/

/-- What can be relied on where a document is saved and loaded again: numbers of more than 63 bits
are refused and nothing else is, and what was written is read back if no names clash. -/
structure Codec.Lawful (codec : Codec) : Prop where
  isSome_write?_iff (parts : List Section) :
    (codec.write? parts).isSome = true ↔
      ∀ part ∈ parts, ∀ entry ∈ part.entries, entry.2.IsSmall
  read?_of_write? {parts : List Section} {text : String} :
    codec.write? parts = some text → (parts.map Section.name).Nodup →
      (∀ part ∈ parts, part.IsDistinct) → codec.read? text = some (parts.map Section.toEntry)

theorem Codec.lawful_standard : Codec.standard.Lawful where
  isSome_write?_iff := Toml.isSome_write?_iff
  read?_of_write? := ofText?_of_write?

end SmbExchange.Toml

import SmbExchange.Bytes.Access
import SmbExchange.Proofs.Bytes.Slices

/-!
# Changes inside a range

A write is known by the range that it may touch.  What is read elsewhere is as
before, writes follow each other inside one range, and writes to ranges that
are apart can be made in either order.
-/

namespace SmbExchange.Bytes

/-- The strings are of one length and differ at most from `start` up to `stop`. -/
structure ChangedWithin (before after : Bytes) (start stop : Nat) : Prop where
  length_eq : after.length = before.length
  getElem?_eq : ∀ index, index < start ∨ stop ≤ index → after[index]? = before[index]?

theorem changedWithin_patch {bytes source : Bytes} {offset start stop : Nat}
    (hlow : start ≤ offset) (hhigh : offset + source.length ≤ stop) :
    bytes.ChangedWithin (bytes.patch offset source) start stop := by
  refine ⟨length_patch bytes offset source, fun index hindex => ?_⟩
  rw [getElem?_patch, if_neg (by omega)]

/-- Writes to ranges that are apart can be made in either order. -/
theorem patch_comm {bytes first second : Bytes} {left right : Nat}
    (haway : left + first.length ≤ right ∨ right + second.length ≤ left) :
    (bytes.patch left first).patch right second =
      (bytes.patch right second).patch left first := by
  apply List.ext_getElem?
  intro index
  simp only [getElem?_patch, length_patch]
  by_cases hsecond : right ≤ index ∧ index < right + second.length ∧ index < bytes.length
  · rw [if_pos hsecond, if_neg (by omega), if_pos hsecond]
  · rw [if_neg hsecond, if_neg hsecond]

namespace ChangedWithin

variable {before middle after : Bytes} {start stop offset length : Nat}

theorem trans (hfirst : before.ChangedWithin middle start stop)
    (hsecond : middle.ChangedWithin after start stop) :
    before.ChangedWithin after start stop :=
  ⟨hsecond.length_eq.trans hfirst.length_eq, fun index hindex =>
    (hsecond.getElem?_eq index hindex).trans (hfirst.getElem?_eq index hindex)⟩

theorem mono {low high : Nat} (hchanged : before.ChangedWithin after start stop)
    (hlow : low ≤ start) (hhigh : stop ≤ high) : before.ChangedWithin after low high :=
  ⟨hchanged.length_eq, fun index hindex => hchanged.getElem?_eq index (by omega)⟩

theorem slice_eq (hchanged : before.ChangedWithin after start stop)
    (haway : offset + length ≤ start ∨ stop ≤ offset) :
    after.slice offset length = before.slice offset length :=
  slice_eq_of_getElem?_eq fun index hindex => hchanged.getElem?_eq (offset + index) (by omega)

theorem read_eq (hchanged : before.ChangedWithin after start stop)
    (haway : offset + length ≤ start ∨ stop ≤ offset) :
    after.read offset length = before.read offset length := by
  have hsame : after.Fits offset length ↔ before.Fits offset length := by
    rw [Fits, Fits, hchanged.length_eq]
  by_cases hfits : before.Fits offset length
  · rw [read, read, if_pos hfits, if_pos (hsame.mpr hfits), hchanged.slice_eq haway]
  · rw [read, read, if_neg hfits, if_neg (mt hsame.mp hfits), overflow, overflow,
      hchanged.length_eq]

theorem take_eq (hchanged : before.ChangedWithin after start stop) (haway : length ≤ start) :
    after.take length = before.take length := by
  have hslice : after.slice 0 length = before.slice 0 length :=
    hchanged.slice_eq (.inl (by omega))
  rwa [slice, slice, List.drop_zero, List.drop_zero] at hslice

theorem drop_eq (hchanged : before.ChangedWithin after start stop) (haway : stop ≤ offset) :
    after.drop offset = before.drop offset := by
  apply List.ext_getElem?
  intro index
  rw [List.getElem?_drop, List.getElem?_drop, hchanged.getElem?_eq _ (by omega)]

end ChangedWithin

end SmbExchange.Bytes

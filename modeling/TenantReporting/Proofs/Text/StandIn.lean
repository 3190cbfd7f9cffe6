import Mathlib.Data.List.Zip
import TenantReporting.Text.StandIn

/-!
# Texts with and without surrogates

A text without surrogates of its own gets no stand-ins and is read as it is (`inserted_plain`). The
stand-ins of any other text are characters that the text does not mention (`choose_fresh`).
-/

namespace TenantReporting.Text

namespace StandIns

/-- A stand-in does not occur in the text, nor does its escape, as long as there are enough of
them. -/
theorem choose_fresh {source : List Nat} {surrogate code : Nat}
    (h : (surrogate, code) ∈ choose source) :
    code = replacement ∨ code ∉ source ∧ code ∉ escapedCodes source := by
  unfold choose at h
  split at h
  · cases h
  · obtain ⟨-, hcode⟩ := List.of_mem_zip h
    rcases List.mem_append.1 hcode with hfresh | hreplaced
    · exact .inr (by simpa using (List.mem_filter.1 hfresh).2)
    · exact .inl (List.eq_of_mem_replicate hreplaced)

/-- Where no surrogate follows, codes are put in place as they are. The codes at the front that
belong to an escape are those that the escape has left to be put there. -/
theorem inserted_after_plain (standIns : StandIns) {skipped : Nat} {source : List Nat}
    (h : surrogatesAfter skipped source = []) :
    standIns.insertedAfter (source.take skipped) source = source := by
  induction source generalizing skipped with
  | nil => rfl
  | cons code rest ih =>
      cases skipped with
      | succ skipped =>
          have hrest : surrogatesAfter skipped rest = [] := h
          change code :: standIns.insertedAfter (rest.take skipped) rest = code :: rest
          rw [ih hrest]
      | zero =>
          rw [surrogatesAfter, if_neg (lt_irrefl 0)] at h
          rw [List.take_zero, insertedAfter]
          by_cases hescape : code = 0x5C
          · rw [if_pos hescape] at h
            rcases hat : escapeAt (code :: rest) with ⟨length, surrogate?⟩
            rw [hat] at h
            obtain ⟨hnone, hrest⟩ := List.append_eq_nil_iff.1 h
            obtain rfl : surrogate? = none := by simpa using hnone
            have hkept : (standIns.escapeReplaced (code :: rest)).drop 1 =
                rest.take (length - 1) := by
              rw [escapeReplaced, hat]
              exact List.drop_take
            rw [if_pos hescape, hkept, ih hrest]
          · rw [if_neg hescape] at h
            split at h
            · cases h
            next hcharacter =>
              have hplain : standIns.insertedAfter (rest.take 0) rest = rest := ih h
              rw [List.take_zero] at hplain
              rw [if_neg hescape, if_neg hcharacter, hplain]

/-- A text without surrogates of its own is read as it is. -/
theorem inserted_plain (standIns : StandIns) {source : List Nat}
    (h : surrogatesAfter 0 source = []) :
    standIns.inserted source = String.ofList (source.map Char.ofNat) := by
  have hcodes : standIns.insertedAfter (source.take 0) source = source :=
    standIns.inserted_after_plain h
  rw [List.take_zero] at hcodes
  rw [inserted, hcodes]

end StandIns

end TenantReporting.Text

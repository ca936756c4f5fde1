import Toxcore.Spec.SaveLoad

/-!
# State files of many sections

`state_load` reads the sections that were written one after the other, in their order, and refuses
a file that ends inside a section.
-/

namespace Toxcore

open List

def sectionBytes (cookieType : UInt16) (s : UInt16 × Bytes) : Bytes :=
  stateWriteSectionHeader cookieType (UInt32.ofNat s.2.length) s.1.toUInt32 ++ s.2

/-- The callback gets the sections until it ends or fails. -/
def loadSections {σ : Type} (callback : σ → Bytes → UInt16 → StateLoadStatus × σ) (complete : Bool) :
    σ → List (UInt16 × Bytes) → Bool × σ
  | outer, [] => (complete, outer)
  | outer, (type, body) :: sections =>
    match callback outer body type with
    | (.continue, outer) => loadSections callback complete outer sections
    | (.error, outer) => (false, outer)
    | (.end, outer) => (true, outer)

section

variable {σ : Type} (callback : σ → Bytes → UInt16 → StateLoadStatus × σ) (cookieType : UInt16)

/-- A file that ends inside a section, or before it. -/
theorem stateLoadLoop_take {s : UInt16 × Bytes} {n fuel : Nat} (hsize : s.2.length < 2 ^ 32)
    (hn : n < (sectionBytes cookieType s).length) (hfuel : n ≤ fuel) (outer : σ) :
    stateLoadLoop callback cookieType fuel outer ((sectionBytes cookieType s).take n) =
      (decide (n = 0), outer) := by
  have hlength := length_take_of_le hn.le
  cases fuel with
  | zero => simp only [stateLoadLoop, hlength]
  | succ fuel =>
    by_cases hhead : n < sizeHead
    · rw [stateLoadLoop, if_pos (by omega)]
      simp only [hlength]
    · rw [sectionBytes, length_append, length_stateWriteSectionHeader] at hn
      rw [sectionBytes, take_append, take_of_length_le (by rw [length_stateWriteSectionHeader]; omega),
        stateLoadLoop_header, if_pos, decide_eq_false (by unfold sizeHead at hhead; omega)]
      rw [UInt32.toNat_ofNat_of_lt' hsize, length_take, length_stateWriteSectionHeader]
      omega

theorem stateLoadLoop_sections {sections : List (UInt16 × Bytes)} {last : UInt16 × Bytes} {n fuel : Nat}
    (hsize : ∀ s ∈ last :: sections, s.2.length < 2 ^ 32)
    (hn : n < (sectionBytes cookieType last).length)
    (hfuel : (sections.flatMap (sectionBytes cookieType)).length + n ≤ fuel) (outer : σ) :
    stateLoadLoop callback cookieType fuel outer
        (sections.flatMap (sectionBytes cookieType) ++ (sectionBytes cookieType last).take n) =
      loadSections callback (decide (n = 0)) outer sections := by
  induction sections generalizing fuel outer with
  | nil => exact stateLoadLoop_take callback cookieType (hsize _ mem_cons_self) hn (by simpa using hfuel) outer
  | cons s sections ih =>
    have hbody : (UInt32.ofNat s.2.length).toNat = s.2.length :=
      UInt32.toNat_ofNat_of_lt' (hsize _ (by simp))
    rw [flatMap_cons, length_append, sectionBytes, length_append, length_stateWriteSectionHeader,
      sizeHead] at hfuel
    obtain ⟨fuel, rfl⟩ : ∃ n, fuel = n + 1 := ⟨fuel - 1, by omega⟩
    have ih := @ih fuel (fun s hs => hsize s (by grind)) (by omega)
    rw [flatMap_cons, append_assoc, sectionBytes, append_assoc, stateLoadLoop_header, hbody, if_neg (by simp),
      take_left, drop_left, loadSections]
    rcases callback outer s.2 s.1 with ⟨_ | _ | _, next⟩
    · exact ih next
    · rfl
    · rfl

/-- A file of sections, cut after `n` bytes of its last section: nothing of it if `n` is zero. -/
theorem stateLoad_sections {sections : List (UInt16 × Bytes)} {last : UInt16 × Bytes} {n : Nat}
    (hsize : ∀ s ∈ last :: sections, s.2.length < 2 ^ 32)
    (hn : n < (sectionBytes cookieType last).length) (outer : σ) :
    stateLoad callback outer
        (sections.flatMap (sectionBytes cookieType) ++ (sectionBytes cookieType last).take n) cookieType =
      loadSections callback (decide (n = 0)) outer sections := by
  apply stateLoadLoop_sections callback cookieType hsize hn
  rw [length_append, length_take_of_le hn.le]

end

theorem stateLoad_sections_cut : stateLoad (fun outer body type => (.continue, (type, body) :: outer)) []
    (([(1, [5])] : List _).flatMap (sectionBytes 7) ++ (sectionBytes 7 (2, [6])).take 3) 7 =
      (false, [(1, [5])]) :=
  stateLoad_sections _ 7 (by decide) (by decide) []

end Toxcore

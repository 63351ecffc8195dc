/-
DeckKeywords/Proofs/Text/Upper.lean

Upper-casing a text twice.  Upper-casing replaces some characters, those with a code
point in `upperSources`, by others, with code points in `upperImages`, and leaves the
rest alone.  The two lists have nothing in common, so what stands for a replaced
character is never replaced itself, and an upper-case form is left alone,
`upper_upper`.

That they have nothing in common is seen by writing each list as a number whose
binary digits tell what is in it, `bits`.

Two texts differ in nothing but case if they have one upper-case form,
`SameButCase`.
-/
import DeckKeywords.Text.Case
import Mathlib.Data.List.Basic

namespace DeckKeywords.Text

/-! ### Lists of numbers as binary digits -/

/-- The number with a binary digit one at each place of the list `ns`. -/
def bits (ns : List Nat) : Nat := ns.foldr (fun n b => b ||| 1 <<< n) 0

theorem testBit_bits_of_mem {ns : List Nat} {n : Nat} (h : n ∈ ns) : (bits ns).testBit n := by
  induction ns with
  | nil => cases h
  | cons k ns ih =>
    show (bits ns ||| 1 <<< k).testBit n
    rw [Nat.testBit_or, Bool.or_eq_true]
    rcases List.mem_cons.mp h with rfl | h
    · exact .inr (by simp [Nat.shiftLeft_eq])
    · exact .inl (ih h)

/-- Lists `ms` and `ns` whose numbers have no digit in common have no item in common. -/
theorem not_mem_of_bits {ms ns : List Nat} (h : bits ms &&& bits ns = 0) {n : Nat} (hm : n ∈ ms) :
    n ∉ ns := by
  intro hn
  have hboth : (bits ms &&& bits ns).testBit n := by
    rw [Nat.testBit_and, testBit_bits_of_mem hm, testBit_bits_of_mem hn]
    rfl
  rw [h, Nat.zero_testBit] at hboth
  cases hboth

/-! ### What a mapping does to one character -/

namespace CaseRun

/-- The code points of a run `r`. -/
def codes (r : CaseRun) : List Nat :=
  List.range' r.first ((r.last - r.first) / r.step + 1) r.step

/-- The code points that a run `r` moves its own ones to. -/
def images (r : CaseRun) : List Nat := r.codes.map fun (n : Nat) => (n + r.shift).toNat

theorem mem_codes_of_moves {r : CaseRun} {n : Nat} (h : r.moves n) : n ∈ r.codes := by
  obtain ⟨hfirst, hlast, hstep⟩ : r.first ≤ n ∧ n ≤ r.last ∧ (n - r.first) % r.step = 0 := by
    simpa [moves, and_assoc] using h
  refine List.mem_range'.mpr ⟨(n - r.first) / r.step, ?_, ?_⟩
  · exact Nat.lt_succ_of_le (Nat.div_le_div_right (Nat.sub_le_sub_right hlast r.first))
  · rw [Nat.mul_div_cancel' (Nat.dvd_of_mod_eq_zero hstep), Nat.add_sub_cancel' hfirst]

end CaseRun

/-- A mapping `m` leaves a character `c` alone, or has a longer image for it or a run that moves
it. -/
theorem CaseMap.image_cases (m : CaseMap) (c : Char) :
    m.image c = [c] ∨ (∃ codes, (c.toNat, codes) ∈ m.longer ∧ m.image c = codes.map Char.ofNat) ∨
      ∃ r ∈ m.runs, r.moves c.toNat ∧ m.image c = [Char.ofNat (c.toNat + r.shift).toNat] := by
  rcases hlookup : m.longer.lookup c.toNat with - | codes
  · rcases hfind : m.runs.find? (·.moves c.toNat) with - | r
    · exact .inl (by rw [image, hlookup, hfind])
    · have hmoves := List.find?_some hfind
      have hr := List.mem_of_find?_eq_some hfind
      exact .inr (.inr ⟨r, hr, hmoves, by rw [image, hlookup, hfind]⟩)
  · obtain ⟨before, behind, hsplit, -⟩ := List.lookup_eq_some_iff.mp hlookup
    refine .inr (.inl ⟨codes, ?_, by rw [image, hlookup]⟩)
    rw [hsplit]
    exact List.mem_append_right before List.mem_cons_self

/-- A mapping `m` leaves a character `c` alone that is in none of its runs and has no longer
image. -/
theorem CaseMap.image_of_not_mem {m : CaseMap} {c : Char}
    (h : c.toNat ∉ m.longer.map Prod.fst ++ m.runs.flatMap (·.codes)) : m.image c = [c] := by
  rcases m.image_cases c with halone | ⟨codes, hcodes, -⟩ | ⟨r, hr, hmoves, -⟩
  · exact halone
  · refine absurd (List.mem_append_left _ ?_) h
    exact List.mem_map_of_mem hcodes
  · refine absurd (List.mem_append_right _ ?_) h
    exact List.mem_flatMap.mpr ⟨r, hr, CaseRun.mem_codes_of_moves hmoves⟩

/-- What else a mapping `m` gives is listed with its longer images or in the images of its runs. -/
theorem CaseMap.mem_image {m : CaseMap} {c d : Char} (h : d ∈ m.image c) :
    m.image c = [c] ∨
      ∃ n ∈ m.longer.flatMap Prod.snd ++ m.runs.flatMap (·.images), d = Char.ofNat n := by
  rcases m.image_cases c with halone | ⟨codes, hcodes, himage⟩ | ⟨r, hr, hmoves, himage⟩
  · exact .inl halone
  · rw [himage] at h
    obtain ⟨n, hn, rfl⟩ := List.mem_map.mp h
    exact .inr ⟨n, List.mem_append_left _ (List.mem_flatMap.mpr ⟨_, hcodes, hn⟩), rfl⟩
  · rw [himage, List.mem_singleton] at h
    refine .inr ⟨_, List.mem_append_right _ (List.mem_flatMap.mpr ⟨r, hr, ?_⟩), h⟩
    exact List.mem_map_of_mem (CaseRun.mem_codes_of_moves hmoves)

/-! ### What upper-casing replaces -/

/-- The letters `a` to `z`. -/
def smallLetters : CaseRun := ⟨0x61, 0x7A, 1, -32⟩

/-- The code points that `upperChar` replaces. -/
def upperSources : List Nat :=
  smallLetters.codes ++ (upperMap.longer.map Prod.fst ++ upperMap.runs.flatMap (·.codes))

/-- The code points that `upperChar` puts in their places. -/
def upperImages : List Nat :=
  smallLetters.images ++ (upperMap.longer.flatMap Prod.snd ++ upperMap.runs.flatMap (·.images))

theorem bits_upperImages : bits upperImages &&& bits upperSources = 0 := by decide +kernel

theorem upperImages_valid : ∀ n ∈ upperImages, n.isValidChar := by decide +kernel

variable {c d : Char}

/-- In ASCII just the `smallLetters` are replaced. -/
theorem upperChar_ascii (h : c.toNat < 0x80) :
    upperChar c = if c.toNat ∈ smallLetters.codes then [Char.ofNat (c.toNat - 32)] else [c] := by
  have hall : ∀ n < 0x80, upperChar (Char.ofNat n)
      = if n ∈ smallLetters.codes then [Char.ofNat (n - 32)] else [Char.ofNat n] := by
    decide +kernel
  have hchar := hall c.toNat h
  rwa [Char.ofNat_toNat] at hchar

theorem upperChar_of_le (h : 0x80 ≤ c.toNat) : upperChar c = upperMap.image c := by
  rw [upperChar, if_neg (Nat.not_lt.mpr h)]

theorem upperChar_of_not_mem (h : c.toNat ∉ upperSources) : upperChar c = [c] := by
  rw [upperSources, List.mem_append, not_or] at h
  rcases Nat.lt_or_ge c.toNat 0x80 with hascii | hbeyond
  · rw [upperChar_ascii hascii, if_neg h.1]
  · rw [upperChar_of_le hbeyond]
    exact CaseMap.image_of_not_mem h.2

theorem mem_upperImages (h : d ∈ upperChar c) :
    upperChar c = [c] ∨ ∃ n ∈ upperImages, d = Char.ofNat n := by
  rcases Nat.lt_or_ge c.toNat 0x80 with hascii | hbeyond
  · rw [upperChar_ascii hascii] at h ⊢
    by_cases hsmall : c.toNat ∈ smallLetters.codes
    · rw [if_pos hsmall, List.mem_singleton] at h
      have himage : c.toNat - 32 ∈ smallLetters.images := by
        refine List.mem_map.mpr ⟨c.toNat, hsmall, ?_⟩
        show ((c.toNat : Int) + -32).toNat = c.toNat - 32
        omega
      exact .inr ⟨_, List.mem_append_left _ himage, h⟩
    · exact .inl (if_neg hsmall)
  · rw [upperChar_of_le hbeyond] at h ⊢
    rcases CaseMap.mem_image h with halone | ⟨n, hn, hd⟩
    · exact .inl halone
    · exact .inr ⟨n, List.mem_append_right _ hn, hd⟩

theorem toNat_mem_upperImages (h : d ∈ upperChar c) :
    upperChar c = [c] ∨ d.toNat ∈ upperImages := by
  rcases mem_upperImages h with halone | ⟨n, hn, rfl⟩
  · exact .inl halone
  · rw [Char.ofNat, dif_pos (upperImages_valid n hn)]
    exact .inr hn

/-- What `upperChar` puts in the place of a character `c`, it leaves alone. -/
theorem upperChar_of_mem (h : d ∈ upperChar c) : upperChar d = [d] := by
  rcases toNat_mem_upperImages h with halone | hd
  · rw [halone, List.mem_singleton] at h
    rwa [h]
  · exact upperChar_of_not_mem (not_mem_of_bits bits_upperImages hd)

/-! ### Texts -/

@[simp] theorem toList_upper (s : String) : (upper s).toList = s.toList.flatMap upperChar :=
  String.toList_ofList

/-- An upper-case form `upper s` is left alone. -/
@[simp] theorem upper_upper (s : String) : upper (upper s) = upper s := by
  simp only [← String.toList_inj, toList_upper, List.flatMap_assoc]
  refine List.flatMap_congr fun c _ => ?_
  calc (upperChar c).flatMap upperChar
      = (upperChar c).flatMap fun d => [d] := List.flatMap_congr fun d hd => upperChar_of_mem hd
    _ = upperChar c := List.flatMap_singleton' (upperChar c)

/-- The texts `s` and `t` differ in nothing but case: they have one upper-case form. -/
def SameButCase (s t : String) : Prop := upper s = upper t

theorem sameButCase_upper (s : String) : SameButCase (upper s) s := upper_upper s

end DeckKeywords.Text

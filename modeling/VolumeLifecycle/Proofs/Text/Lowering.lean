import VolumeLifecycle.Text.Lowercase
import VolumeLifecycle.Text.Blank
/-!
# VolumeLifecycle.Proofs.Text.Lowering

**Lowering twice is lowering once.** Every character lowering writes is one it leaves as it is
wherever it stands (`ImageOf.lowered`): its own lower case, and not capital sigma, the one
character whose lower case looks at its neighbours (`Lowered`). A text made of such characters
lowers to itself (`lower_of_lowered`), so lowering a lowered text changes nothing
(`lower_lower`). Lowering also keeps the kinds of characters that trimming looks for: it writes
a blank as it is (`ImageOf.eq_of_blank`), and no blank and no slash for a character that is
neither (`ImageOf.not_blank`, `ImageOf.ne_slash`).

The facts about single characters come from the table of runs. A character that no run maps is
its own lower case. A mapped one moves by its run's shift, and one check over all pairs of runs
(`lowerRuns_settled`) shows where the images land. Each image is a valid character, and no run
maps it. It is not one of the code points no image may be (`imageless`). The check compares
ranges, so it looks at 181 squared pairs and not at the images one by one. Two ranges that
overlap are told apart by parity, since a run that goes by twos maps every other code point.
-/

namespace VolumeLifecycle.Text

namespace CaseRun

/-- Whether the run maps the code point `n`: the test a run is looked up by. -/
def maps (r : CaseRun) (n : Nat) : Bool :=
  r.first ≤ n && n ≤ r.last && (n - r.first) % r.step == 0

/-- The least code point the run maps to. -/
def low (r : CaseRun) : Nat := (r.first + r.shift).toNat

/-- The greatest code point the run maps to. -/
def high (r : CaseRun) : Nat := (r.last + r.shift).toNat

/-- The run's images all have the parity of `low`: it goes by twos, or has one point. -/
def oneParity (r : CaseRun) : Bool := r.step == 2 || r.first == r.last

/-- No image from `lo` to `hi` is mapped by `r'`: the ranges are apart, or the images have one
parity and `r'` goes by twos through the other. -/
def missedBy (lo hi : Nat) (oneParity : Bool) (r' : CaseRun) : Bool :=
  hi < r'.first || r'.last < lo || (oneParity && r'.step == 2 && (lo + r'.first) % 2 == 1)

end CaseRun

/-- The code points no image may be: the two capitals that lower on their own terms, the slash
and the blanks. -/
def imageless : List Nat := [0x130, 0x3A3, 0x2F] ++ blankCodes

namespace CaseRun

/-- The images of a run are characters, no run maps them, and none is `imageless`. -/
def settled (r : CaseRun) : Bool :=
  0 ≤ r.first + r.shift && (r.high < 0xD800 || 0xE000 ≤ r.low && r.high < 0x110000) &&
    lowerRuns.all (missedBy r.low r.high r.oneParity) &&
    imageless.all fun x => r.high < x || x < r.low

end CaseRun

theorem lowerRuns_settled : lowerRuns.all CaseRun.settled = true := by
  decide +kernel

theorem CaseRun.image_settled {r : CaseRun} (hr : r.settled = true) {n : Nat}
    (hn : r.maps n = true) :
    ((n + r.shift).toNat).isValidChar ∧ (∀ r' ∈ lowerRuns, r'.maps (n + r.shift).toNat = false) ∧
      (n + r.shift).toNat ∉ imageless := by
  simp only [settled, Bool.and_eq_true, Bool.or_eq_true, decide_eq_true_eq,
    List.all_eq_true] at hr
  obtain ⟨⟨⟨hpos, hvalid⟩, hmiss⟩, havoid⟩ := hr
  unfold low high at hvalid havoid hmiss
  simp only [maps, Bool.and_eq_true, decide_eq_true_eq, beq_iff_eq] at hn
  obtain ⟨⟨hfirst, hlast⟩, hstep⟩ := hn
  -- the image, as a whole number, lies from `low` to `high`
  have hm : ((n + r.shift).toNat : Int) = n + r.shift := by omega
  refine ⟨?_, fun r' hr' => ?_, fun hx => ?_⟩
  · unfold Nat.isValidChar
    omega
  · have h := hmiss r' hr'
    simp only [missedBy, oneParity, Bool.or_eq_true, Bool.and_eq_true, decide_eq_true_eq,
      beq_iff_eq] at h
    simp only [maps, Bool.and_eq_false_iff, decide_eq_false_iff_not, beq_eq_false_iff_ne]
    rcases h with (hbelow | habove) | ⟨⟨hone, htwos⟩, hparity⟩
    · exact .inl (.inl (by omega))
    · exact .inl (.inr (by omega))
    -- the image and the points of `r'` have different parities
    · rw [htwos]
      rcases hone with htwo | hpoint
      · rw [htwo] at hstep
        omega
      · omega
  · have h := havoid _ hx
    omega

/-- A valid code point is the code of the character made from it. -/
theorem toNat_ofNat_of_valid {n : Nat} (h : n.isValidChar) : (Char.ofNat n).toNat = n := by
  unfold Char.ofNat
  rw [dif_pos h]
  rfl

/-- **What lowering does to one character**: capital I with dot above becomes two characters, a
character some run maps moves by that run's shift, and any other stays. -/
theorem lowerChar_cases (c : Char) :
    (c.toNat = 0x130 ∧ lowerChar c = ['i', Char.ofNat 0x307]) ∨
    (∃ r ∈ lowerRuns, r.maps c.toNat = true ∧
      lowerChar c = [Char.ofNat (c.toNat + r.shift).toNat]) ∨
    (c.toNat ≠ 0x130 ∧ (∀ r ∈ lowerRuns, r.maps c.toNat = false) ∧ lowerChar c = [c]) := by
  by_cases h130 : c.toNat = 0x130
  · exact .inl ⟨h130, by simp [lowerChar, h130]⟩
  cases hfind : lowerRuns.find? (·.maps c.toNat) with
  | some r =>
    have hfind' : lowerRuns.find? (fun r => r.first ≤ c.toNat && c.toNat ≤ r.last &&
        (c.toNat - r.first) % r.step == 0) = some r := hfind
    have hmaps := List.find?_some hfind
    exact .inr (.inl ⟨r, List.mem_of_find?_eq_some hfind, hmaps,
      by simp only [lowerChar, beq_iff_eq, h130, if_false, hfind']⟩)
  | none =>
    have hfind' : lowerRuns.find? (fun r => r.first ≤ c.toNat && c.toNat ≤ r.last &&
        (c.toNat - r.first) % r.step == 0) = none := hfind
    refine .inr (.inr ⟨h130, fun r hr => ?_,
      by simp only [lowerChar, beq_iff_eq, h130, if_false, hfind']⟩)
    simpa using List.find?_eq_none.1 hfind r hr

/-- Lowering writes at least one character for each. -/
theorem lowerChar_ne_nil (c : Char) : lowerChar c ≠ [] := by
  rcases lowerChar_cases c with ⟨-, h⟩ | ⟨r, -, -, h⟩ | ⟨-, -, h⟩ <;> simp [h]

/-! ## Characters lowering leaves alone -/

/-- A character lowering leaves as it is wherever it stands: it is its own lower case, and it is
not capital sigma, whose lower case depends on its neighbours. -/
def Lowered (c : Char) : Prop := lowerChar c = [c] ∧ c.toNat ≠ 0x3A3

instance : DecidablePred Lowered := fun c =>
  inferInstanceAs (Decidable (lowerChar c = [c] ∧ c.toNat ≠ 0x3A3))

theorem lowered_of_unmapped {c : Char} (h130 : c.toNat ≠ 0x130)
    (hun : ∀ r ∈ lowerRuns, r.maps c.toNat = false) : Lowered c := by
  refine ⟨?_, fun hsigma => ?_⟩
  · rcases lowerChar_cases c with ⟨h, -⟩ | ⟨r, hr, hmaps, -⟩ | ⟨-, -, h⟩
    · exact absurd h h130
    · rw [hun r hr] at hmaps
      cases hmaps
    · exact h
  -- capital sigma is mapped
  · obtain ⟨r, hr, hmaps⟩ := List.any_eq_true.1 (show lowerRuns.any (·.maps 0x3A3) = true by decide)
    rw [← hsigma, hun r hr] at hmaps
    cases hmaps

/-- The characters lowering may write for `c`: its lower case, or for capital sigma either of
its two lower cases. -/
def ImageOf (c d : Char) : Prop :=
  d ∈ lowerChar c ∨ (c.toNat = 0x3A3 ∧ (d = Char.ofNat 0x3C2 ∨ d = Char.ofNat 0x3C3))

section Images

variable {c d : Char}

/-- The image of a mapped character: a valid character that no run maps, and no code point of
`imageless`. -/
theorem image_of_maps {r : CaseRun} (hr : r ∈ lowerRuns) (hmaps : r.maps c.toNat = true) :
    Lowered (Char.ofNat (c.toNat + r.shift).toNat) ∧
      (Char.ofNat (c.toNat + r.shift).toNat).toNat ∉ imageless := by
  obtain ⟨hvalid, hun, hless⟩ :=
    CaseRun.image_settled (List.all_eq_true.1 lowerRuns_settled r hr) hmaps
  rw [← toNat_ofNat_of_valid hvalid] at hun hless
  exact ⟨lowered_of_unmapped (fun h => hless (h ▸ by decide)) hun, hless⟩

/-- The characters lowering writes by rule rather than by the table: the two of capital I with
dot above and the two lower cases of capital sigma. -/
def ruleImages : List Char := ['i', Char.ofNat 0x307, Char.ofNat 0x3C2, Char.ofNat 0x3C3]

/-- **What lowering may write for a character**: the character itself, which lowering leaves
alone; an image the table settles; or a character written by rule. -/
theorem ImageOf.cases (h : ImageOf c d) :
    (d = c ∧ Lowered d) ∨ (Lowered d ∧ d.toNat ∉ imageless) ∨ d ∈ ruleImages := by
  rcases h with hd | ⟨-, rfl | rfl⟩
  · rcases lowerChar_cases c with ⟨-, h⟩ | ⟨r, hr, hmaps, h⟩ | ⟨h130, hun, h⟩
    · rw [h, List.mem_cons, List.mem_singleton] at hd
      rcases hd with rfl | rfl <;> simp [ruleImages]
    · rw [h, List.mem_singleton] at hd
      exact .inr (.inl (hd ▸ image_of_maps hr hmaps))
    · rw [h, List.mem_singleton] at hd
      exact .inl ⟨hd, hd ▸ lowered_of_unmapped h130 hun⟩
  all_goals simp [ruleImages]

/-- The characters written by rule, one by one. -/
theorem mem_ruleImages {d : Char} (h : d ∈ ruleImages) :
    d = 'i' ∨ d = Char.ofNat 0x307 ∨ d = Char.ofNat 0x3C2 ∨ d = Char.ofNat 0x3C3 := by
  simpa [ruleImages] using h

/-- **Every character lowering writes is one it leaves alone.** -/
theorem ImageOf.lowered (h : ImageOf c d) : Lowered d := by
  rcases h.cases with ⟨-, hlow⟩ | ⟨hlow, -⟩ | hrule
  · exact hlow
  · exact hlow
  · rcases mem_ruleImages hrule with rfl | rfl | rfl | rfl <;> decide

/-- Lowering writes no blank for a character that is not one. -/
theorem ImageOf.not_blank (h : ImageOf c d) (hc : isBlank c = false) : isBlank d = false := by
  rcases h.cases with ⟨rfl, -⟩ | ⟨-, hless⟩ | hrule
  · exact hc
  · simp only [imageless, List.mem_append, not_or] at hless
    simpa [isBlank] using hless.2
  · rcases mem_ruleImages hrule with rfl | rfl | rfl | rfl <;> decide

/-- Lowering writes no slash for a character that is not one. -/
theorem ImageOf.ne_slash (h : ImageOf c d) (hc : c ≠ '/') : d ≠ '/' := by
  rcases h.cases with ⟨rfl, -⟩ | ⟨-, hless⟩ | hrule
  · exact hc
  · rintro rfl
    exact hless (by decide)
  · rcases mem_ruleImages hrule with rfl | rfl | rfl | rfl <;> decide

/-- No run maps a blank. -/
theorem blanks_unmapped : lowerRuns.all (fun r => blankCodes.all (!r.maps ·)) = true := by
  decide +kernel

/-- Lowering writes a blank as it is. -/
theorem ImageOf.eq_of_blank (h : ImageOf c d) (hc : isBlank c = true) : d = c := by
  have hblank : c.toNat ∈ blankCodes := by simpa [isBlank] using hc
  -- a blank is neither of the two capitals lowered on their own terms, and no run maps it
  have h130 : c.toNat ≠ 0x130 := fun h => by rw [h] at hblank; revert hblank; decide
  have hsigma : c.toNat ≠ 0x3A3 := fun h => by rw [h] at hblank; revert hblank; decide
  have hun : ∀ r ∈ lowerRuns, r.maps c.toNat = false := fun r hr => by
    simpa using List.all_eq_true.1 (List.all_eq_true.1 blanks_unmapped r hr) _ hblank
  rcases h with hd | ⟨hc', -⟩
  · rcases lowerChar_cases c with ⟨h, -⟩ | ⟨r, hr, hmaps, -⟩ | ⟨-, -, h⟩
    · exact absurd h h130
    · rw [hun r hr] at hmaps
      cases hmaps
    · rwa [h, List.mem_singleton] at hd
  · exact absurd hc' hsigma

end Images

/-! ## Lowering a text -/

/-- Every character lowering writes is the image of one it was given. -/
theorem mem_lowerAfter {before l : List Char} {d : Char} (h : d ∈ lowerAfter before l) :
    ∃ c ∈ l, ImageOf c d := by
  induction l generalizing before with
  | nil => cases h
  | cons c rest ih =>
    rw [lowerAfter, List.mem_append] at h
    rcases h with hd | hd
    · refine ⟨c, List.mem_cons_self, ?_⟩
      -- capital sigma lowers to one of its two lower cases, anything else to its own
      by_cases hsigma : c.toNat = 0x3A3
      · simp only [hsigma, beq_self_eq_true, if_true, List.mem_singleton] at hd
        refine .inr ⟨hsigma, ?_⟩
        split at hd <;> simp [hd]
      · simp only [hsigma, beq_iff_eq, if_false] at hd
        exact .inl hd
    · obtain ⟨c', hc', himg⟩ := ih hd
      exact ⟨c', List.mem_cons_of_mem c hc', himg⟩

/-- Characters lowering leaves alone lower to themselves, whatever stands before them. -/
theorem lowerAfter_of_lowered {l : List Char} (h : ∀ c ∈ l, Lowered c) (before : List Char) :
    lowerAfter before l = l := by
  induction l generalizing before with
  | nil => rfl
  | cons c rest ih =>
    obtain ⟨hlow, hsigma⟩ := h c List.mem_cons_self
    simp only [lowerAfter, beq_iff_eq, hsigma, if_false, hlow,
      ih (fun d hd => h d (List.mem_cons_of_mem c hd)), List.singleton_append]

/-- The last characters lowering writes are the images of the last one it is given. -/
theorem lowerAfter_concat (before xs : List Char) (c : Char) :
    ∃ pre img, lowerAfter before (xs ++ [c]) = pre ++ img ∧ img ≠ [] ∧ ∀ d ∈ img, ImageOf c d := by
  induction xs generalizing before with
  | nil =>
    refine ⟨[], lowerAfter before [c], rfl, ?_, fun d hd => ?_⟩
    · by_cases hsigma : c.toNat = 0x3A3 <;> simp [lowerAfter, hsigma, lowerChar_ne_nil]
    · obtain ⟨c', hc', himg⟩ := mem_lowerAfter hd
      rwa [List.mem_singleton.1 hc'] at himg
  | cons x xs ih =>
    obtain ⟨pre, img, heq, hne, himg⟩ := ih (x :: before)
    exact ⟨_, img, by rw [List.cons_append, lowerAfter, heq, ← List.append_assoc], hne, himg⟩

/-- Every character of a lowered text is one lowering leaves alone. -/
theorem lowered_of_lower (s : String) : ∀ d ∈ (lower s).toList, Lowered d := by
  intro d hd
  rw [lower, String.toList_ofList] at hd
  obtain ⟨c, -, himg⟩ := mem_lowerAfter hd
  exact himg.lowered

/-- A text of characters lowering leaves alone is its own lower case. -/
theorem lower_of_lowered {s : String} (h : ∀ c ∈ s.toList, Lowered c) : lower s = s := by
  apply String.toList_injective
  rw [lower, String.toList_ofList, lowerAfter_of_lowered h]

/-- **Lowering twice is lowering once.** -/
theorem lower_lower (s : String) : lower (lower s) = lower s :=
  lower_of_lowered (lowered_of_lower s)

end VolumeLifecycle.Text

import Mathlib.Data.List.TakeWhile
import VolumeLifecycle.Proofs.Lock.Key
import VolumeLifecycle.Proofs.Text.Lowering
/-!
# VolumeLifecycle.Proofs.Lock.KeyStability

**When the key of a key is the key.** A key is written as keys are (`KeyForm`). It has a web
scheme in front, and its characters are all ones that lowering leaves alone. Such a key is its
own key exactly when it ends with neither a blank nor a slash (`endpointKey_self_iff`).

When it ends with one of these, its bare form is shorter (`bareAddress_shorter`). The bare form
is kept if it still has its scheme. Without the scheme it gets `https://` in front, and that
gives the key back only for a text that has its scheme (`hasScheme_of_bareAddress_https`).

The key of an address ends with the lowered last character of the bare address, or is
`https://` when the bare address is empty (`endpointKey_keyForm`). Lowering writes a blank as
it is, and no blank and no slash for other characters. The slashes are cut off before the blank
test, so a bare address can end in a blank that stood before them. So the key of an address is
its own key exactly when the bare address is not empty and does not end in a blank
(`endpointKey_stable_iff`). An address such as `https://192.168.2.230/ /` is locked by a key
whose own key is another (`endpointKey_uncovered_blank`).
-/

namespace VolumeLifecycle.Text

/-! ## Trimming -/

theorem trimRightChar_toList (s : String) (c : Char) :
    (trimRightChar s c).toList = (s.toList.reverse.dropWhile (· == c)).reverse := by
  simp [trimRightChar]

theorem trimBlank_toList (s : String) :
    (trimBlank s).toList = ((s.toList.dropWhile isBlank).reverse.dropWhile isBlank).reverse := by
  simp [trimBlank]

/-- A text that starts and ends with characters that are not blank is trimmed to itself. -/
theorem trimBlank_of_ends {s : String} {a b : Char} (ha : s.toList.head? = some a)
    (hb : s.toList.getLast? = some b) (hna : isBlank a = false) (hnb : isBlank b = false) :
    trimBlank s = s := by
  apply String.toList_injective
  obtain ⟨rest, hrest⟩ := List.head?_eq_some_iff.1 ha
  obtain ⟨init, hinit⟩ : ∃ init, s.toList = init ++ [b] := List.getLast?_eq_some_iff.1 hb
  rw [trimBlank_toList, hrest, List.dropWhile_cons_of_neg (by simp [hna]), ← hrest, hinit,
    List.reverse_append, List.reverse_singleton, List.singleton_append,
    List.dropWhile_cons_of_neg (by simp [hnb]), List.reverse_cons, List.reverse_reverse]

/-- A text that does not end with `c` is its own trim of `c`. -/
theorem trimRightChar_of_last {s : String} {b c : Char} (hb : s.toList.getLast? = some b)
    (hbc : b ≠ c) : trimRightChar s c = s := by
  apply String.toList_injective
  obtain ⟨init, hinit⟩ : ∃ init, s.toList = init ++ [b] := List.getLast?_eq_some_iff.1 hb
  rw [trimRightChar_toList, hinit, List.reverse_append, List.reverse_singleton,
    List.singleton_append, List.dropWhile_cons_of_neg (by simp [hbc]), List.reverse_cons,
    List.reverse_reverse]

/-- Trimming `c` leaves a text that does not end with `c`. -/
theorem trimRightChar_last {s : String} {c b : Char}
    (hb : (trimRightChar s c).toList.getLast? = some b) : b ≠ c := by
  rw [trimRightChar_toList, List.getLast?_reverse] at hb
  have := List.head?_dropWhile_not (· == c) s.toList.reverse
  rw [hb] at this
  simpa using this

/-- Trimming a text that does not start with a blank keeps a beginning of it: the blanks and
then the slashes at its end are cut off. -/
theorem bareAddress_toList {k : String} {a : Char} (ha : k.toList.head? = some a)
    (hna : isBlank a = false) :
    (Lock.bareAddress k).toList =
      ((k.toList.reverse.dropWhile isBlank).dropWhile (· == '/')).reverse := by
  obtain ⟨rest, hrest⟩ := List.head?_eq_some_iff.1 ha
  rw [Lock.bareAddress, trimRightChar_toList, trimBlank_toList, hrest,
    List.dropWhile_cons_of_neg (by simp [hna]), ← hrest, List.reverse_reverse]

end VolumeLifecycle.Text

namespace VolumeLifecycle.Lock

open VolumeLifecycle.Text VolumeLifecycle.Redfish

/-- A key as keys are written: a web scheme in front, and only characters lowering leaves
alone. -/
def KeyForm (k : String) : Prop :=
  hasScheme k = true ∧ ∀ c ∈ k.toList, Lowered c

/-- A text with a web scheme in front starts with `h`. -/
theorem head_of_hasScheme {k : String} (hs : hasScheme k = true) : k.toList.head? = some 'h' := by
  unfold hasScheme at hs
  rcases Bool.or_eq_true_iff.mp hs with h | h <;>
  · obtain ⟨r, rfl⟩ := startsWith_iff_append.mp h
    simp

/-- The bare form of a text that starts with `h` is a beginning of it. -/
theorem bareAddress_isPrefix {k : String} (hh : k.toList.head? = some 'h') :
    (bareAddress k).toList <+: k.toList := by
  rw [bareAddress_toList hh (by decide)]
  apply List.reverse_suffix.1
  rw [List.reverse_reverse]
  exact (List.dropWhile_suffix _).trans (List.dropWhile_suffix _)

/-- No beginning of `https://` is the bare form of itself with `https://` in front. -/
theorem bareAddress_https_take : ∀ i < 8,
    bareAddress ("https://" ++ String.ofList ("https://".toList.take i)) ≠
      String.ofList ("https://".toList.take i) := by
  decide +kernel

/-- Only a text that already has a web scheme is its own bare form with `https://` in front:
its bare form would otherwise be a beginning of `https://` that `decide` rules out case by
case. -/
theorem hasScheme_of_bareAddress_https {A : String} (hA : bareAddress ("https://" ++ A) = A) :
    hasScheme A = true := by
  have hpre := bareAddress_isPrefix (k := "https://" ++ A) (by simp)
  rw [hA, String.toList_append] at hpre
  -- `A` is the beginning of `https://` and then `A` itself
  have htake := List.prefix_iff_eq_take.1 hpre
  rw [List.take_append] at htake
  by_cases hlen : "https://".toList.length ≤ A.toList.length
  · -- the scheme is a beginning of `A`
    rw [List.take_of_length_le hlen] at htake
    have hA' : A = "https://" ++ String.ofList (A.toList.take (A.toList.length - 8)) :=
      String.toList_injective (by simpa using htake)
    rw [hA']
    simp [hasScheme]
  · -- `A` is a beginning of the scheme, and none of those is the bare form
    rw [Nat.sub_eq_zero_of_le (by omega), List.take_zero, List.append_nil] at htake
    have hA' : A = String.ofList ("https://".toList.take A.toList.length) :=
      String.toList_injective (by simpa using htake)
    exact absurd (hA' ▸ hA) (bareAddress_https_take _ (by simpa using hlen))

/-- A text that starts with `h` does not trim to nothing. -/
theorem trimBlank_ne_of_head {k : String} (hh : k.toList.head? = some 'h') : trimBlank k ≠ "" := by
  intro h
  have hnil := congrArg String.toList h
  obtain ⟨rest, hrest⟩ := List.head?_eq_some_iff.1 hh
  rw [trimBlank_toList, hrest, List.dropWhile_cons_of_neg (by decide), String.toList_empty,
    List.reverse_eq_nil_iff, List.dropWhile_eq_nil_iff] at hnil
  exact absurd (hnil 'h' (by simp)) (by decide)

/-- Cutting the end of a text that starts with `h` and ends with a blank or a slash leaves a
shorter text. -/
theorem bareAddress_shorter {k : String} {d : Char} (hh : k.toList.head? = some 'h')
    (hd : k.toList.getLast? = some d) (hcut : isBlank d = true ∨ d = '/') :
    (bareAddress k).toList.length < k.toList.length := by
  obtain ⟨init, hinit⟩ := List.getLast?_eq_some_iff.1 hd
  rw [bareAddress_toList hh (by decide), List.length_reverse, hinit, List.reverse_append,
    List.reverse_singleton, List.singleton_append, List.length_append, List.length_singleton]
  -- the last character is cut, and what is cut after it is never more than the rest
  have hrest : ∀ l : List Char, ((l.dropWhile isBlank).dropWhile (· == '/')).length ≤ l.length :=
    fun l => ((List.dropWhile_suffix _).trans (List.dropWhile_suffix _)).length_le
  rcases hcut with hb | rfl
  · rw [List.dropWhile_cons_of_pos hb]
    have := hrest init.reverse
    rw [List.length_reverse] at this
    omega
  · rw [List.dropWhile_cons_of_neg (by decide), List.dropWhile_cons_of_pos (by decide)]
    have := (List.dropWhile_suffix (· == '/') (l := init.reverse)).length_le
    rw [List.length_reverse] at this
    omega

/-- The last character of a lowered text is an image of the last one of the text. -/
theorem lower_getLast? {t : String} {c : Char} (h : t.toList.getLast? = some c) :
    ∃ d, (lower t).toList.getLast? = some d ∧ ImageOf c d := by
  obtain ⟨xs, hxs⟩ := List.getLast?_eq_some_iff.1 h
  obtain ⟨pre, img, heq, hne, himg⟩ := lowerAfter_concat [] xs c
  obtain ⟨d, hd⟩ := Option.isSome_iff_exists.1 (List.getLast?_isSome.2 hne)
  refine ⟨d, ?_, himg d (List.mem_of_getLast? hd)⟩
  rw [lower, String.toList_ofList, hxs, heq, List.getLast?_append, hd]
  rfl

/-- **The key of an address has the form of a key**; a bare address that is empty gives the
bare scheme, and otherwise the key ends with an image of the bare address's last character. -/
theorem endpointKey_keyForm {e : String} (he : trimBlank e ≠ "") :
    ∃ k, endpointKey (.str e) = .ok k ∧ KeyForm k ∧ (bareAddress e = "" → k = "https://") ∧
      ∀ c, (bareAddress e).toList.getLast? = some c →
        ∃ d, k.toList.getLast? = some d ∧ ImageOf c d := by
  rw [endpointKey_str he]
  refine ⟨_, rfl, ⟨?_, lowered_of_lower _⟩, fun hbare => ?_, fun c hc => ?_⟩
  · split
    · assumption
    · rw [lower_scheme_append (.inr rfl)]
      simp [hasScheme]
  · rw [hbare]
    decide +kernel
  · obtain ⟨d, hd, himg⟩ := lower_getLast? hc
    refine ⟨d, ?_, himg⟩
    split
    · exact hd
    · rw [lower_scheme_append (.inr rfl), String.toList_append, List.getLast?_append, hd]
      rfl

/-- **A key is its own key exactly when it ends with neither a blank nor a slash.** Otherwise
its bare form is shorter: kept, if it still has its scheme, and with `https://` in front if not,
which gives the key back only for a text that has its scheme. -/
theorem endpointKey_self_iff {k : String} (hk : KeyForm k) :
    endpointKey (.str k) = .ok k ↔
      ∃ d, k.toList.getLast? = some d ∧ isBlank d = false ∧ d ≠ '/' := by
  have hh := head_of_hasScheme hk.1
  rw [endpointKey_str (trimBlank_ne_of_head hh)]
  -- the bare form is a beginning of the key, so lowering leaves it alone
  have hlow : lower (bareAddress k) = bareAddress k :=
    lower_of_lowered fun c hc => hk.2 c ((bareAddress_isPrefix hh).subset hc)
  rw [hlow]
  constructor
  · intro h
    replace h := Except.ok.inj h
    obtain ⟨rest, hrest⟩ := List.head?_eq_some_iff.1 hh
    obtain ⟨d, hd⟩ :=
      Option.isSome_iff_exists.1 (List.getLast?_isSome.2 (hrest ▸ List.cons_ne_nil _ _))
    refine ⟨d, hd, ?_⟩
    by_contra hkeep
    have hshort := bareAddress_shorter hh hd (by cases hb : isBlank d <;> simp_all)
    split at h
    · rw [hlow] at h
      rw [h] at hshort
      exact lt_irrefl _ hshort
    · rename_i hnone
      rw [lower_scheme_append (.inr rfl), hlow] at h
      have hfixed : bareAddress ("https://" ++ bareAddress k) = bareAddress k := by rw [h]
      exact hnone (hasScheme_of_bareAddress_https hfixed)
  · rintro ⟨d, hd, hdb, hds⟩
    have hbare : bareAddress k = k := by
      rw [bareAddress, trimBlank_of_ends hh hd (by decide) hdb, trimRightChar_of_last hd hds]
    rw [hbare, if_pos hk.1, lower_of_lowered hk.2]

/-- The bare address is not empty and does not end in a blank: the slashes cut off it uncover
none. -/
def KeepsKey (e : String) : Prop :=
  ∃ c, (bareAddress e).toList.getLast? = some c ∧ isBlank c = false

/-- **The key of a key is the key exactly when the bare address is not empty and does not end
in a blank.** The key of an address whose bare form is empty is `https://`, whose key is
`https://https:`; the key of one whose bare form ends in a blank ends in that blank, which the
next key trims off. Every key has a key, and when it is the key itself, asking whether an
address is locked, or taking a ticket for it, by its key asks the same slot as by the
address. -/
theorem endpointKey_stable_iff (e : String) (he : trimBlank e ≠ "") :
    ∃ k, endpointKey (.str e) = .ok k ∧ (endpointKey (.str k) = .ok k ↔ KeepsKey e) ∧
      (∃ k', endpointKey (.str k) = .ok k') ∧
      (KeepsKey e → ∀ r : Registry, r.isLocked (.str k) = r.isLocked (.str e) ∧
        r.take (.str k) = r.take (.str e)) := by
  obtain ⟨k, hk, hform, hempty, hlast⟩ := endpointKey_keyForm he
  have hiff : endpointKey (.str k) = .ok k ↔ KeepsKey e := by
    rw [endpointKey_self_iff hform]
    cases hc : (bareAddress e).toList.getLast? with
    | none =>
      -- an empty bare address gives the bare scheme, which ends with a slash
      have hbare : bareAddress e = "" := String.toList_injective (List.getLast?_eq_none_iff.1 hc)
      rw [hempty hbare]
      simp [KeepsKey, hc]
    | some c =>
      obtain ⟨d, hd, himg⟩ := hlast c hc
      have hcs : c ≠ '/' := by
        rw [bareAddress] at hc
        exact trimRightChar_last hc
      constructor
      · rintro ⟨d', hd', hdb, -⟩
        rw [hd, Option.some_inj] at hd'
        subst hd'
        -- a blank would have been written as it is
        refine ⟨c, hc, ?_⟩
        cases hcb : isBlank c
        · rfl
        · rw [himg.eq_of_blank hcb, hcb] at hdb
          cases hdb
      · rintro ⟨c', hc', hcb⟩
        rw [hc, Option.some_inj] at hc'
        subst hc'
        exact ⟨d, hd, himg.not_blank hcb, himg.ne_slash hcs⟩
  refine ⟨k, hk, hiff, ⟨_, endpointKey_str (trimBlank_ne_of_head (head_of_hasScheme hform.1))⟩,
    fun hkeep r => ?_⟩
  have hstable := hiff.2 hkeep
  constructor <;> simp only [Registry.isLocked, Registry.take, hk, hstable]

/-- An address whose slashes stood after a blank. -/
theorem endpointKey_stable_iff_padded :
    trimBlank "https://192.168.2.230/ /" ≠ "" ∧
      ∃ k, endpointKey (.str "https://192.168.2.230/ /") = .ok k ∧
        (endpointKey (.str k) = .ok k ↔ KeepsKey "https://192.168.2.230/ /") ∧
        (∃ k', endpointKey (.str k) = .ok k') ∧
        (KeepsKey "https://192.168.2.230/ /" → ∀ r : Registry,
          r.isLocked (.str k) = r.isLocked (.str "https://192.168.2.230/ /") ∧
            r.take (.str k) = r.take (.str "https://192.168.2.230/ /")) :=
  ⟨by decide +kernel, endpointKey_stable_iff _ (by decide +kernel)⟩

/-- **A key that is not its own key**: the slashes cut off the address uncover a blank, which the
key keeps and the next key trims. -/
theorem endpointKey_uncovered_blank :
    endpointKey (.str "https://192.168.2.230/ /") = .ok "https://192.168.2.230/ " ∧
      endpointKey (.str "https://192.168.2.230/ ") = .ok "https://192.168.2.230" := by
  constructor <;>
  · rw [endpointKey_str (by decide +kernel)]
    exact congrArg _ (by decide +kernel)

end VolumeLifecycle.Lock

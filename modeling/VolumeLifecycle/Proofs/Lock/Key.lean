import VolumeLifecycle.Lock.Registry
import VolumeLifecycle.Redfish.Client
/-!
# VolumeLifecycle.Proofs.Lock.Key

**The lock key of an address and the base URL of its client.** Both are made from the bare
address (no blanks around it, no slashes after it) by the same steps: put `https://` in front
unless a web scheme is there, and, for the key, lower the case. They test for the scheme
differently: the key tests the address once it is lower-cased, the client tests it letter for
letter. So they agree, up to case, exactly when the address does not write its scheme in capitals
(`SchemeInCapitals`); an address such as `HTTPS://host` is locked as `https://host` while its
client talks to `https://HTTPS://host` (`lockKey_matches_baseUrl`).

Lowering a text is not a map over its characters (a capital sigma looks at its neighbours), so
the step `lower ("https://" ++ t) = "https://" ++ lower t` needs its own argument: lowering looks
back only as far as the nearest character that is not case-ignorable (`lowerAfter_congr`), and
the `/` that ends a scheme is such a character and not cased, as the start of a text is.
-/

namespace VolumeLifecycle.Text

/-! ## Lower case after a scheme -/

/-- Whether the nearest character before a position, case-ignorable ones passed over, is cased:
the half of the end-of-word test of a capital sigma that looks back. -/
def casedBefore (before : List Char) : Bool :=
  match before.dropWhile isCaseIgnorable with
  | c :: _ => isCased c
  | [] => false

theorem endsWord_congr {b₁ b₂ : List Char} (h : casedBefore b₁ = casedBefore b₂)
    (after : List Char) : endsWord b₁ after = endsWord b₂ after := by
  unfold endsWord
  unfold casedBefore at h
  generalize List.dropWhile isCaseIgnorable b₁ = l₁ at *
  generalize List.dropWhile isCaseIgnorable b₂ = l₂ at *
  cases l₁ <;> cases l₂ <;> simp_all

theorem casedBefore_cons_congr {b₁ b₂ : List Char} (h : casedBefore b₁ = casedBefore b₂)
    (c : Char) : casedBefore (c :: b₁) = casedBefore (c :: b₂) := by
  unfold casedBefore at *
  by_cases hc : isCaseIgnorable c <;> simp [hc, h]

/-- **Lowering looks back only as far as the nearest character that is not case-ignorable**, and
only at whether it is cased. -/
theorem lowerAfter_congr {b₁ b₂ : List Char} (h : casedBefore b₁ = casedBefore b₂)
    (s : List Char) : lowerAfter b₁ s = lowerAfter b₂ s := by
  induction s generalizing b₁ b₂ with
  | nil => rfl
  | cons c rest ih => simp only [lowerAfter, endsWord_congr h, ih (casedBefore_cons_congr h c)]

/-- Characters without a capital sigma among them lower without looking at what follows. -/
theorem lowerAfter_append {xs : List Char} (hx : ∀ c ∈ xs, c.toNat ≠ 0x3A3)
    (before ys : List Char) :
    lowerAfter before (xs ++ ys) = lowerAfter before xs ++ lowerAfter (xs.reverse ++ before) ys := by
  induction xs generalizing before with
  | nil => rfl
  | cons c rest ih =>
    have hc : c.toNat ≠ 0x3A3 := hx c List.mem_cons_self
    simp only [List.cons_append, lowerAfter, ih (fun d hd => hx d (List.mem_cons_of_mem c hd)),
      List.reverse_cons, List.append_assoc]
    simp [hc]

/-- A web scheme written in lower case stays as it is in front of any text. -/
theorem lower_scheme_append {p : String} (hp : p = "http://" ∨ p = "https://") (t : String) :
    lower (p ++ t) = p ++ lower t := by
  have hfree : ∀ c ∈ p.toList, c.toNat ≠ 0x3A3 := by rcases hp with rfl | rfl <;> simp
  have hlow : lowerAfter [] p.toList = p.toList := by rcases hp with rfl | rfl <;> decide
  -- the scheme ends in `/`, which is neither case-ignorable nor cased
  have hback : casedBefore p.toList.reverse = casedBefore [] := by
    rcases hp with rfl | rfl <;> decide +kernel
  apply String.toList_injective
  simp only [lower, String.toList_append, String.toList_ofList, lowerAfter_append hfree, hlow,
    List.append_nil, lowerAfter_congr hback]

theorem startsWith_iff_append {s p : String} : s.startsWith p = true ↔ ∃ r, s = p ++ r := by
  rw [String.startsWith_string_iff]
  constructor
  · rintro ⟨r, hr⟩
    exact ⟨String.ofList r, String.toList_injective (by simp [← hr])⟩
  · rintro ⟨r, rfl⟩
    exact ⟨r.toList, by simp⟩

theorem ne_https_append (k : String) : k ≠ "https://" ++ k := by
  intro h
  have hlen := congrArg String.length h
  simp at hlen

end VolumeLifecycle.Text

namespace VolumeLifecycle.Redfish

open VolumeLifecycle.Text

/-- A scheme in lower case survives lowering. -/
theorem hasScheme_lower {t : String} (h : hasScheme t = true) : hasScheme (lower t) = true := by
  unfold hasScheme at *
  rcases Bool.or_eq_true_iff.mp h with h | h
  · obtain ⟨r, rfl⟩ := startsWith_iff_append.mp h
    rw [lower_scheme_append (.inl rfl)]
    simp
  · obtain ⟨r, rfl⟩ := startsWith_iff_append.mp h
    rw [lower_scheme_append (.inr rfl)]
    simp

/-- A client can be made for any address that is not empty, and its base URL is `baseUrlOf`. -/
theorem Client.create_baseUrl {e : String} (he : e ≠ "") (username password verify timeout : Value) :
    ∃ c, Client.create (.str e) username password verify timeout = .ok c ∧
      c.baseUrl = baseUrlOf e := by
  simp [Client.create, Value.truthy, he, textOf, bind, Except.bind, pure, Except.pure]

end VolumeLifecycle.Redfish

namespace VolumeLifecycle.Lock

open VolumeLifecycle.Text VolumeLifecycle.Redfish

/-! ## The key against the base URL -/

/-- The address without blanks around it and slashes after it. -/
def bareAddress (e : String) : String := trimRightChar (trimBlank e) '/'

/-- The address writes its scheme with capital letters: bare, it starts with `http://` or
`https://` only once it is lower-cased. -/
def SchemeInCapitals (e : String) : Prop :=
  hasScheme (lower (bareAddress e)) = true ∧ hasScheme (bareAddress e) = false

instance (e : String) : Decidable (SchemeInCapitals e) :=
  inferInstanceAs (Decidable (_ ∧ _))

theorem baseUrlOf_eq (e : String) :
    baseUrlOf e = if hasScheme (bareAddress e) then bareAddress e else "https://" ++ bareAddress e :=
  rfl

theorem endpointKey_str {e : String} (he : trimBlank e ≠ "") :
    endpointKey (.str e) = .ok (lower (if hasScheme (lower (bareAddress e)) then bareAddress e
      else "https://" ++ bareAddress e)) := by
  have hne : e ≠ "" := by rintro rfl; exact he (by decide)
  simp [endpointKey, Value.truthy, hne, he, bareAddress, hasScheme, bind, Except.bind, pure,
    Except.pure]

/-- The key of a non-blank address is its base URL in lower case, except that a scheme written
in capitals keeps the key from getting `https://` in front, while the base URL gets it. -/
theorem endpointKey_baseUrl {e : String} (he : trimBlank e ≠ "") :
    ∃ k, endpointKey (.str e) = .ok k ∧
      (¬ SchemeInCapitals e → k = lower (baseUrlOf e)) ∧
      (SchemeInCapitals e → lower (baseUrlOf e) = "https://" ++ k) := by
  rw [endpointKey_str he, baseUrlOf_eq]
  refine ⟨_, rfl, ?_⟩
  unfold SchemeInCapitals
  cases hb : hasScheme (bareAddress e) <;> cases hl : hasScheme (lower (bareAddress e))
  · -- no scheme at all: both put `https://` in front
    simp
  · -- a scheme in capitals
    simp [lower_scheme_append (.inr rfl)]
  · exact absurd (hasScheme_lower hb) (by simp [hl])
  · -- a scheme in lower case: both keep it
    simp

/-- **The lock key of an address and the base URL of its client agree up to case, unless the
address writes its scheme in capitals.** Then the client takes the capitals for a host and puts
`https://` in front of them, while the key keeps the scheme as it is. Addresses whose schemes
are in lower case, or absent, so share a lock exactly when their clients address one base URL up
to case. -/
theorem lockKey_matches_baseUrl (e : String) (he : trimBlank e ≠ "")
    (username password verify timeout : Value) :
    (∃ c k, Client.create (.str e) username password verify timeout = .ok c ∧
      endpointKey (.str e) = .ok k ∧ (k = lower c.baseUrl ↔ ¬ SchemeInCapitals e) ∧
      (SchemeInCapitals e → lower c.baseUrl = "https://" ++ k)) ∧
    ∀ e₂ : String, trimBlank e₂ ≠ "" → ¬ SchemeInCapitals e → ¬ SchemeInCapitals e₂ →
      (endpointKey (.str e) = endpointKey (.str e₂) ↔
        lower (baseUrlOf e) = lower (baseUrlOf e₂)) := by
  refine ⟨?_, fun e₂ h₂ hc₁ hc₂ => ?_⟩
  · have hne : e ≠ "" := by rintro rfl; exact he (by decide)
    obtain ⟨c, hc, hbase⟩ := Client.create_baseUrl hne username password verify timeout
    obtain ⟨k, hk, hplain, hcap⟩ := endpointKey_baseUrl he
    rw [← hbase] at hplain hcap
    -- with its scheme in capitals, the key would be itself with `https://` in front
    exact ⟨c, k, hc, hk, ⟨fun heq hcaps => ne_https_append k (heq.trans (hcap hcaps)), hplain⟩,
      hcap⟩
  · obtain ⟨k₁, hk₁, hplain₁, -⟩ := endpointKey_baseUrl he
    obtain ⟨k₂, hk₂, hplain₂, -⟩ := endpointKey_baseUrl h₂
    rw [hk₁, hk₂, hplain₁ hc₁, hplain₂ hc₂]
    exact ⟨fun h => Except.ok.inj h, congrArg _⟩

/-- An address with its scheme in capitals gets a key that is not its client's base URL in lower
case: the base URL has `https://` in front of the key. -/
theorem lockKey_matches_baseUrl_capitals :
    trimBlank "HTTPS://192.168.2.230" ≠ "" ∧ SchemeInCapitals "HTTPS://192.168.2.230" ∧
      ∃ c k, Client.create (.str "HTTPS://192.168.2.230") .null .null (.bool false) (.int 30) =
          .ok c ∧ endpointKey (.str "HTTPS://192.168.2.230") = .ok k ∧
        lower c.baseUrl = "https://" ++ k := by
  have he : trimBlank "HTTPS://192.168.2.230" ≠ "" := by decide +kernel
  have hcaps : SchemeInCapitals "HTTPS://192.168.2.230" := by decide +kernel
  obtain ⟨⟨c, k, hc, hk, -, hcap⟩, -⟩ :=
    lockKey_matches_baseUrl "HTTPS://192.168.2.230" he .null .null (.bool false) (.int 30)
  exact ⟨he, hcaps, c, k, hc, hk, hcap hcaps⟩

example : SchemeInCapitals "HTTPS://192.168.2.230" ∧
    (endpointKey (.str "HTTPS://192.168.2.230")).toOption = some "https://192.168.2.230" ∧
    baseUrlOf "HTTPS://192.168.2.230" = "https://HTTPS://192.168.2.230" := by decide +kernel

end VolumeLifecycle.Lock

import SearchDomain.DomainApi.Client
import SearchDomain.Proofs.Text.Trimmed
/-!
# Endpoint — one base for all spellings of an endpoint

White space around an endpoint and slashes at its end are no part of it, so all its spellings have one base
(`baseUrl_spelled`). The base is a spelling of itself (`baseUrl_baseUrl`), and a path is put under it after a single
slash, however many slashes the path begins with (`url_slashes`).
-/
namespace SearchDomain.Endpoint

open Text (AllSpace Flush dropTailWhile)

/-- An endpoint as it is meant: some text, with nothing at its ends to cut off. -/
structure IsBare (c : String) : Prop where
  nonempty : c ≠ ""
  flush : Flush c.toList
  noSlash : c.toList.getLast? ≠ some '/'

/-- The endpoint is a URL. -/
def Schemed (c : String) : Prop := ∃ rest, c = "http://" ++ rest ∨ c = "https://" ++ rest

def slashes (n : Nat) : String := String.ofList (List.replicate n '/')

variable {c w w' r : String} {n : Nat}

theorem eq_append_iff {start : String} : (∃ rest, c = start ++ rest) ↔ start.toList <+: c.toList := by
  constructor
  · rintro ⟨rest, rfl⟩
    rw [String.toList_append]
    exact List.prefix_append _ _
  · rintro ⟨rest, h⟩
    refine ⟨String.ofList rest, String.toList_inj.1 ?_⟩
    rw [String.toList_append, String.toList_ofList, h]

theorem hasScheme_iff : hasScheme c.toList = true ↔ Schemed c := by
  unfold hasScheme Schemed
  rw [Bool.or_eq_true, List.isPrefixOf_iff_prefix, List.isPrefixOf_iff_prefix, exists_or, eq_append_iff, eq_append_iff]

theorem IsBare.toList_ne_nil (bare : IsBare c) : c.toList ≠ [] := fun h =>
  bare.nonempty (String.toList_inj.1 h)

/-- Of a bare endpoint nothing is cut off, whatever slashes and white space are added. -/
theorem cut_spelled (bare : IsBare c) (before : AllSpace w.toList) (after : AllSpace w'.toList) (n : Nat) :
    dropTailWhile (· == '/') (Text.trim (w ++ c ++ slashes n ++ w').toList) = c.toList := by
  have split : (w ++ c ++ slashes n ++ w').toList = w.toList ++ ((c.toList ++ List.replicate n '/') ++ w'.toList) := by
    simp only [slashes, String.toList_append, String.toList_ofList, List.append_assoc]
  have flush : Flush (c.toList ++ List.replicate n '/') := by
    refine ⟨?_, ?_⟩
    · rw [List.head?_append_of_ne_nil _ bare.toList_ne_nil]
      exact bare.flush.1
    · -- the last character is a slash, or that of the endpoint
      cases n with
      | zero =>
        rw [List.replicate_zero, List.append_nil]
        exact bare.flush.2
      | succ n =>
        intro d hd
        rw [List.replicate_succ', ← List.append_assoc, List.getLast?_concat] at hd
        cases hd
        decide
  rw [split, Text.trim_between before after flush, Text.dropTailWhile_append fun d hd => ?_,
    Text.dropTailWhile_of_last fun d hd => ?_]
  · refine beq_eq_false_iff_ne.2 fun he => bare.noSlash ?_
    rw [← he]
    exact hd
  · rw [List.eq_of_mem_replicate hd]
    rfl

/-- **All spellings of an endpoint have one base.** -/
theorem baseUrl_spelled (bare : IsBare c) (before : AllSpace w.toList) (after : AllSpace w'.toList) (n : Nat) :
    baseUrl (w ++ c ++ slashes n ++ w') = if hasScheme c.toList then c else "https://" ++ c := by
  unfold baseUrl
  simp only [cut_spelled bare before after n, String.ofList_toList]

theorem baseUrl_bare (bare : IsBare c) : baseUrl c = if hasScheme c.toList then c else "https://" ++ c := by
  have none : AllSpace "".toList := by decide
  have spelled := baseUrl_spelled bare none none 0
  rwa [show "" ++ c ++ slashes 0 ++ "" = c by simp [slashes]] at spelled

theorem IsBare.baseUrl (bare : IsBare c) : IsBare (baseUrl c) := by
  rw [baseUrl_bare bare]
  split
  · exact bare
  · have last : ("https://" ++ c).toList.getLast? = c.toList.getLast? := by
      rw [String.toList_append, List.getLast?_append_of_ne_nil _ bare.toList_ne_nil]
    refine ⟨fun h => ?_, ⟨?_, ?_⟩, ?_⟩
    · have := congrArg String.toList h
      simp at this
    · intro d hd
      rw [String.toList_append] at hd
      cases hd
      decide
    · rw [last]
      exact bare.flush.2
    · rw [last]
      exact bare.noSlash

theorem hasScheme_baseUrl (bare : IsBare c) : hasScheme (baseUrl c).toList = true := by
  rw [baseUrl_bare bare]
  split
  · assumption
  · exact hasScheme_iff.2 ⟨c, .inr rfl⟩

/-- A base is its own base. -/
theorem baseUrl_baseUrl (bare : IsBare c) : baseUrl (baseUrl c) = baseUrl c := by
  rw [baseUrl_bare bare.baseUrl, if_pos (hasScheme_baseUrl bare)]

/-- A path is put under a base after one slash. -/
theorem url_slashes (base : String) (rest : r.toList.head? ≠ some '/') (m : Nat) :
    url base (slashes m ++ r) = base ++ "/" ++ r := by
  have cut : (slashes m ++ r).toList.dropWhile (· == '/') = r.toList := by
    rw [slashes, String.toList_append, String.toList_ofList, List.dropWhile_append_of_pos fun d hd => ?_]
    · cases h : r.toList with
      | nil => rfl
      | cons d ds =>
        refine List.dropWhile_cons_of_neg fun slash => rest ?_
        rw [h, List.head?_cons, eq_of_beq slash]
    · rw [List.eq_of_mem_replicate hd]
      rfl
  rw [url, cut, String.ofList_toList]

/-- **The spelling of an endpoint does not matter**: white space around it and slashes at its end change neither its
base nor the URLs of its client. -/
theorem spelling_immaterial (bare : IsBare c) (before : AllSpace w.toList) (after : AllSpace w'.toList) (n : Nat)
    (rest : r.toList.head? ≠ some '/') (m : Nat) (region : String) (credentials : Signature.CredentialSource) :
    let spelled := w ++ c ++ slashes n ++ w'
    (Schemed c → baseUrl c = c) ∧ (¬ Schemed c → baseUrl c = "https://" ++ c) ∧
    baseUrl spelled = baseUrl c ∧ baseUrl (baseUrl c) = baseUrl c ∧
    ∃ client, DomainApi.Client.ofEndpoint spelled region (some credentials) = .ok client ∧
      client.url (slashes m ++ r) = baseUrl c ++ "/" ++ r := by
  have same : baseUrl (w ++ c ++ slashes n ++ w') = baseUrl c :=
    (baseUrl_spelled bare before after n).trans (baseUrl_bare bare).symm
  refine ⟨fun schemed => ?_, fun plain => ?_, same, baseUrl_baseUrl bare, _, rfl, ?_⟩
  · rw [baseUrl_bare bare, if_pos (hasScheme_iff.2 schemed)]
  · rw [baseUrl_bare bare, if_neg (mt hasScheme_iff.1 plain)]
  · exact (url_slashes _ rest m).trans (by rw [same])

/-- A scheme without a host loses its slashes with those at the end, and is a host then. -/
theorem spelling_immaterial_schemeOnly :
    IsBare "http:" ∧ baseUrl "\u3000http:// \u0085" = "https://http:" ∧ baseUrl "https://http:" = "https://http:" ∧
    ∃ client, DomainApi.Client.ofEndpoint "\u3000http:// \u0085" "r" (some (.failing "")) = .ok client ∧
      client.url "///a" = "https://http:/a" := by
  have bare : IsBare "http:" := ⟨by decide, by decide, by decide⟩
  have before : AllSpace "\u3000".toList := by decide
  have after : AllSpace " \u0085".toList := by decide
  obtain ⟨-, unschemed, spelled, again, urls⟩ :=
    spelling_immaterial bare before after 2 (r := "a") (by decide) 3 "r" (.failing "")
  have base := unschemed fun schemed => absurd (hasScheme_iff.2 schemed) (by decide)
  rw [base] at spelled again urls
  exact ⟨bare, spelled, again, urls⟩

end SearchDomain.Endpoint

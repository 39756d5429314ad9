import SearchDomain.Proofs.Text.Percent
import SearchDomain.Signature.Authorization
/-!
# Signing — the headers that take part in a signature

Next to the headers of its own, a request is signed with the host, the time, the session token and the digest of the
body (`canonicalRequest?_eq_some_iff`). These may be sent as they are, and so may the authorization that is made of them
(`isSendable_of_signed`).
-/
namespace SearchDomain.Signature

open Http (Header Target)
open Http.Header (isName isNameChar isSendable isValue isValueChar lowerChar lowerName)
open Text.Utf8 (Bytes)

variable {headers all : List Header} {h : Header} {name host method url payload : String} {token : Option String}
  {time : Timestamp} {target : Target} {cs ds : List Char} {c : Char} {body : Bytes} {canonical : CanonicalRequest}

/-! ## Names -/

theorem lowerChar_lowerChar (c : Char) : lowerChar (lowerChar c) = lowerChar c := by
  by_cases ascii : c.toNat < 128
  · exact Text.Percent.of_ascii (p := fun c => lowerChar (lowerChar c) = lowerChar c) (by decide) ascii
  by_cases kelvin : c = '\u212a'
  · subst kelvin
    decide
  have same : c.toLower = c := by
    unfold Char.toLower
    rw [dif_neg]
    rintro ⟨-, high⟩
    exact ascii (Nat.lt_of_le_of_lt (UInt32.le_iff_toNat_le.1 high) (by decide))
  have kept : lowerChar c = c := by
    unfold lowerChar
    rw [if_neg kelvin, same]
  rw [kept, kept]

theorem lowerName_lowerName (name : String) : lowerName (lowerName name) = lowerName name := by
  unfold lowerName
  rw [String.toList_ofList, List.map_map]
  exact congrArg String.ofList (List.map_congr_left fun c _ => lowerChar_lowerChar c)

theorem isNameChar_facts (h : isNameChar c = true) : isValueChar c = true ∧ c ≠ ' ' ∧ c ≠ ',' ∧ c ≠ ';' ∧ c ≠ '=' := by
  have ascii : c.toNat < 128 := by
    unfold isNameChar Char.isAlphanum Char.isAlpha at h
    simp only [Bool.or_eq_true] at h
    obtain ((h | h) | h) | h := h
    · exact Nat.lt_of_le_of_lt (Text.Percent.bounds_of_isUpper h).2 (by decide)
    · exact Nat.lt_of_le_of_lt (Text.Percent.bounds_of_isLower h).2 (by decide)
    · exact Nat.lt_of_le_of_lt (Text.Percent.bounds_of_isDigit h).2 (by decide)
    · have signs : "!#$%&'*+-.^_`|~".toList.all (Char.toNat · < 128) = true := by decide
      exact of_decide_eq_true (List.all_eq_true.1 signs c (List.contains_iff_mem.1 h))
  exact Text.Percent.of_ascii (p := fun c => isNameChar c = true →
    isValueChar c = true ∧ c ≠ ' ' ∧ c ≠ ',' ∧ c ≠ ';' ∧ c ≠ '=') (by decide) ascii h

/-! ## Values -/

theorem collapseSpaces_of_no_space (h : ' ' ∉ cs) : collapseSpaces cs = cs := by
  fun_induction collapseSpaces cs with
  | case1 rest => exact absurd List.mem_cons_self h
  | case2 c rest _ ih => rw [ih fun hr => h (List.mem_cons_of_mem c hr)]
  | case3 => rfl

theorem dropWhile_of_no_space (h : ' ' ∉ cs) : cs.dropWhile (· = ' ') = cs := by
  cases cs with
  | nil => rfl
  | cons c cs =>
    refine List.dropWhile_cons_of_neg ?_
    rw [decide_eq_true_eq]
    rintro rfl
    exact h List.mem_cons_self

/-- A value without blanks is normal. -/
theorem normalValue_of_no_space {s : String} (h : ' ' ∉ s.toList) : normalValue s = s := by
  have around : ' ' ∉ s.toList.reverse := fun hc => h (List.mem_reverse.1 hc)
  unfold normalValue trimSpaces
  rw [dropWhile_of_no_space h, dropWhile_of_no_space around, List.reverse_reverse, collapseSpaces_of_no_space h,
    String.ofList_toList]

theorem isValue_append : isValue (cs ++ ds) = (isValue cs && isValue ds) := List.all_append

theorem isValueChar_of_isDigit (h : c.isDigit = true) : isValueChar c = true ∧ c ≠ ' ' ∧ c ≠ 'T' := by
  have ascii : c.toNat < 128 := Nat.lt_of_le_of_lt (Text.Percent.bounds_of_isDigit h).2 (by decide)
  exact Text.Percent.of_ascii (p := fun c => c.isDigit = true → isValueChar c = true ∧ c ≠ ' ' ∧ c ≠ 'T')
    (by decide) ascii h

theorem isDigit_of_mem_padded {width n : Nat} (h : c ∈ Timestamp.padded width n) : c.isDigit = true := by
  obtain h | h := List.mem_append.1 h
  · rw [List.eq_of_mem_replicate h]
    decide
  · exact Nat.isDigit_of_mem_toDigits (by decide) (by decide) h

theorem isDigit_of_mem_date (h : c ∈ time.date.toList) : c.isDigit = true := by
  unfold Timestamp.date at h
  simp only [String.toList_ofList, List.mem_append] at h
  obtain (h | h) | h := h <;> exact isDigit_of_mem_padded h

theorem of_mem_dateTime (h : c ∈ time.dateTime.toList) : c.isDigit = true ∨ c = 'T' ∨ c = 'Z' := by
  unfold Timestamp.dateTime at h
  simp only [String.toList_append, String.toList_ofList, List.mem_append, List.mem_cons, List.not_mem_nil,
    or_false] at h
  obtain h | ((((rfl | h) | h) | h) | rfl) := h
  · exact .inl (isDigit_of_mem_date h)
  · exact .inr (.inl rfl)
  · exact .inl (isDigit_of_mem_padded h)
  · exact .inl (isDigit_of_mem_padded h)
  · exact .inl (isDigit_of_mem_padded h)
  · exact .inr (.inr rfl)

theorem isValueChar_dateTime (h : c ∈ time.dateTime.toList) : isValueChar c = true ∧ c ≠ ' ' := by
  obtain h | rfl | rfl := of_mem_dateTime h
  · exact ⟨(isValueChar_of_isDigit h).1, (isValueChar_of_isDigit h).2.1⟩
  · decide
  · decide

theorem isValueChar_hex {bytes : Bytes} (h : c ∈ Text.Hex.ofBytes bytes) :
    isValueChar c = true ∧ c ≠ ' ' ∧ c ≠ '=' := by
  have digit : ∀ n < 16, isValueChar (Text.Hex.lower n) = true ∧ Text.Hex.lower n ≠ ' ' ∧ Text.Hex.lower n ≠ '=' := by
    decide
  unfold Text.Hex.ofBytes at h
  obtain ⟨b, -, hb⟩ := List.mem_flatMap.1 h
  have small := b.toNat_lt
  simp only [List.mem_cons, List.not_mem_nil, or_false] at hb
  obtain rfl | rfl := hb
  · exact digit _ (by omega)
  · exact digit _ (by omega)

/-! ## All headers -/

/-- The names that a signature sets itself. -/
def addedNames : List String := ["host", dateHeader, tokenHeader, contentHashHeader]

/-- Names that a signature sets itself, or leaves out. -/
def reserved : List String := addedNames ++ unsigned

/-- No header has a reserved name. -/
def AreOrdinary (headers : List Header) : Prop := ∀ h ∈ headers, lowerName h.1 ∉ reserved

/-- What is signed next to a request's own headers. -/
def added (token : Option String) (time : Timestamp) (host payload : String) : List Header :=
  [("host", host), (dateHeader, time.dateTime)] ++ (token.map (tokenHeader, ·)).toList ++ [(contentHashHeader, payload)]

/-- A header as it is signed. -/
def normal (h : Header) : Header := (lowerName h.1, normalValue h.2)

theorem mem_added_iff : h ∈ added token time host payload ↔ h = ("host", host) ∨ h = (dateHeader, time.dateTime) ∨
    (∃ t ∈ token, h = (tokenHeader, t)) ∨ h = (contentHashHeader, payload) := by
  unfold added
  cases token <;> simp

theorem mem_addedNames (hh : h ∈ added token time host payload) : h.1 ∈ addedNames := by
  unfold addedNames
  obtain rfl | rfl | ⟨t, -, rfl⟩ | rfl := mem_added_iff.1 hh <;> simp

theorem normalHeader?_eq_some_iff {h' : Header} :
    normalHeader? h = some h' ↔ isSendable (normal h) = true ∧ h' = normal h := by
  unfold normalHeader? normal
  simp only
  split
  · rename_i sendable
    rw [Option.some.injEq]
    exact ⟨fun he => ⟨sendable, he.symm⟩, fun h => h.2.symm⟩
  · rename_i refused
    exact ⟨nofun, fun h => absurd h.1 refused⟩

theorem mapM_normalHeader?_eq_some_iff :
    headers.mapM normalHeader? = some all ↔ (∀ h ∈ headers, isSendable (normal h) = true) ∧
      all = headers.map normal := by
  induction headers generalizing all with
  | nil =>
    constructor
    · intro h
      cases h
      exact ⟨nofun, rfl⟩
    · rintro ⟨-, rfl⟩
      rfl
  | cons h headers ih =>
    rw [List.mapM_cons]
    simp only [Option.bind_eq_bind, Option.bind_eq_some_iff, normalHeader?_eq_some_iff, ih, List.forall_mem_cons,
      List.map_cons]
    constructor
    · rintro ⟨_, ⟨first, rfl⟩, _, ⟨rest, rfl⟩, he⟩
      exact ⟨⟨first, rest⟩, (Option.some.inj he).symm⟩
    · rintro ⟨⟨first, rest⟩, rfl⟩
      exact ⟨_, ⟨first, rfl⟩, _, ⟨rest, rfl⟩, rfl⟩

theorem replaceHeader_of_absent {value : String} (h : ∀ g ∈ headers, g.1 ≠ name) :
    replaceHeader (name, value) headers = headers ++ [(name, value)] := by
  have kept : headers.filter (·.1 ≠ name) = headers := List.filter_eq_self.2 fun g hg => decide_eq_true (h g hg)
  unfold replaceHeader
  rw [kept]

theorem AreOrdinary.ne_of_mem (ordinary : AreOrdinary headers) (own : name ∈ reserved) :
    ∀ g ∈ headers.map normal, g.1 ≠ name := by
  rintro g hg rfl
  obtain ⟨h, hh, rfl⟩ := List.mem_map.1 hg
  exact ordinary h hh own

/-- A header with a reserved name is put behind the ordinary ones. -/
theorem AreOrdinary.replaceHeader_append {more : List Header} {value : String} (ordinary : AreOrdinary headers)
    (own : name ∈ reserved) (others : ∀ g ∈ more, g.1 ≠ name) :
    replaceHeader (name, value) (headers.map normal ++ more) = headers.map normal ++ (more ++ [(name, value)]) := by
  rw [← List.append_assoc]
  refine replaceHeader_of_absent fun g hg => ?_
  obtain hg | hg := List.mem_append.1 hg
  · exact ordinary.ne_of_mem own g hg
  · exact others g hg

/-- **All headers are those given and those added**, if they are headers at all. -/
theorem allHeaders?_eq_some_iff (ordinary : AreOrdinary headers) :
    allHeaders? token time target headers payload = some all ↔
      (∀ h ∈ headers, isSendable (normal h) = true) ∧ (∀ t ∈ token, isValue t.toList = true) ∧
        all = headers.map normal ++ added token time (String.ofList target.hostHeader) payload := by
  have noHost : (headers.map normal).any (·.1 = "host") = false := by
    refine List.any_eq_false.2 fun g hg => ?_
    rw [decide_eq_true_eq]
    exact ordinary.ne_of_mem (by decide) g hg
  have dated : replaceHeader (dateHeader, time.dateTime)
        (headers.map normal ++ [("host", String.ofList target.hostHeader)]) =
      headers.map normal ++ [("host", String.ofList target.hostHeader), (dateHeader, time.dateTime)] :=
    ordinary.replaceHeader_append (by decide) (by simp; decide)
  unfold allHeaders?
  cases token with
  | none =>
    have whole : replaceHeader (contentHashHeader, payload)
        (headers.map normal ++ [("host", String.ofList target.hostHeader), (dateHeader, time.dateTime)]) =
        headers.map normal ++ added none time (String.ofList target.hostHeader) payload :=
      ordinary.replaceHeader_append (by decide) (by simp; decide)
    simp only [Option.bind_eq_bind, Option.bind_eq_some_iff, mapM_normalHeader?_eq_some_iff]
    constructor
    · rintro ⟨_, ⟨sendable, rfl⟩, _, hd, he⟩
      rw [noHost, if_neg Bool.false_ne_true, dated] at hd
      cases hd
      rw [whole] at he
      exact ⟨sendable, nofun, (Option.some.inj he).symm⟩
    · rintro ⟨sendable, -, rfl⟩
      refine ⟨_, ⟨sendable, rfl⟩, _, rfl, ?_⟩
      rw [noHost, if_neg Bool.false_ne_true, dated, whole]
      rfl
  | some t =>
    have tokened : replaceHeader (tokenHeader, t)
        (headers.map normal ++ [("host", String.ofList target.hostHeader), (dateHeader, time.dateTime)]) =
        headers.map normal ++ [("host", String.ofList target.hostHeader), (dateHeader, time.dateTime),
          (tokenHeader, t)] :=
      ordinary.replaceHeader_append (by decide) (by simp; decide)
    have whole : replaceHeader (contentHashHeader, payload)
        (headers.map normal ++ [("host", String.ofList target.hostHeader), (dateHeader, time.dateTime),
          (tokenHeader, t)]) =
        headers.map normal ++ added (some t) time (String.ofList target.hostHeader) payload :=
      ordinary.replaceHeader_append (by decide) (by simp; decide)
    simp only [Option.bind_eq_bind, Option.bind_eq_some_iff, mapM_normalHeader?_eq_some_iff]
    constructor
    · rintro ⟨_, ⟨sendable, rfl⟩, he⟩
      rw [noHost, if_neg Bool.false_ne_true, dated, tokened] at he
      split at he
      · rename_i valid
        rw [Option.bind_some, whole] at he
        exact ⟨sendable, fun _ ht => Option.some.inj ht ▸ valid, (Option.some.inj he).symm⟩
      · cases he
    · rintro ⟨sendable, valid, rfl⟩
      refine ⟨_, ⟨sendable, rfl⟩, ?_⟩
      rw [noHost, if_neg Bool.false_ne_true, dated, tokened, if_pos (valid t rfl), Option.bind_some, whole]
      rfl

/-- The headers that are signed with a body. -/
def takingPart (headers : List Header) (token : Option String) (time : Timestamp) (host : String) (body : Bytes) :
    List Header :=
  headers.map normal ++ added token time host (CanonicalRequest.payloadHash body)

/-- **When a request can be signed, and what is signed.** -/
theorem canonicalRequest?_eq_some_iff (ordinary : AreOrdinary headers) :
    canonicalRequest? token time method url headers body = some canonical ↔
      ∃ target, Target.ofChars? url.toList = some target ∧ (∀ h ∈ headers, isSendable (normal h) = true) ∧
        (∀ t ∈ token, isValue t.toList = true) ∧
        canonical = .ofParts method target.path target.query
          (signedNames (takingPart headers token time (String.ofList target.hostHeader) body))
          (takingPart headers token time (String.ofList target.hostHeader) body)
            (CanonicalRequest.payloadHash body) := by
  unfold canonicalRequest?
  simp only [Option.bind_eq_bind, Option.bind_eq_some_iff, allHeaders?_eq_some_iff ordinary]
  constructor
  · rintro ⟨target, ht, _, ⟨sendable, valid, rfl⟩, he⟩
    exact ⟨target, ht, sendable, valid, (Option.some.inj he).symm⟩
  · rintro ⟨target, ht, sendable, valid, rfl⟩
    exact ⟨target, ht, _, ⟨sendable, valid, rfl⟩, rfl⟩

/-! ## Signed names -/

theorem mem_signedNames_iff : name ∈ signedNames headers ↔ (∃ h ∈ headers, h.1 = name) ∧ name ∉ unsigned := by
  unfold signedNames
  rw [List.mem_mergeSort, List.mem_filter, List.mem_eraseDups, List.mem_map, Bool.not_eq_true', ← Bool.not_eq_true,
    List.contains_iff_mem]

theorem isName_of_mem_signedNames (sendable : ∀ h ∈ headers, isSendable (normal h) = true)
    (hn : name ∈ signedNames (takingPart headers token time host body)) : isName name.toList = true := by
  obtain ⟨⟨g, hg, rfl⟩, -⟩ := mem_signedNames_iff.1 hn
  obtain hg | hg := List.mem_append.1 hg
  · obtain ⟨h, hh, rfl⟩ := List.mem_map.1 hg
    have both := sendable h hh
    unfold isSendable at both
    exact ((Bool.and_eq_true _ _).mp both).1
  · have fixed : ∀ n ∈ addedNames, isName n.toList = true := by decide
    exact fixed g.1 (mem_addedNames hg)

theorem isNameChar_of_mem (h : isName name.toList = true) (hc : c ∈ name.toList) : isNameChar c = true := by
  unfold isName at h
  simp only [Bool.and_eq_true] at h
  exact List.all_eq_true.1 h.2 c hc

/-! ## Sending -/

/-- The headers that carry a signature. -/
def signedWith (credentials : Credentials) (scope : Scope) (made : CanonicalRequest) : List Header :=
  [(dateHeader, scope.time.dateTime), ("authorization", authorization credentials scope made),
    (contentHashHeader, made.payload)]
    ++ (credentials.sessionToken.map (tokenHeader, ·)).toList

theorem signingHeaders?_eq {credentials : Credentials} {scope : Scope} :
    signingHeaders? credentials scope method url headers body =
      (canonicalRequest? credentials.sessionToken scope.time method url headers body).map
        (signedWith credentials scope) := by
  unfold signingHeaders?
  cases canonicalRequest? credentials.sessionToken scope.time method url headers body <;> rfl

theorem isValue_intercalate {s : String} {parts : List String} (separator : isValue s.toList = true)
    (each : ∀ p ∈ parts, isValue p.toList = true) : isValue (s.intercalate parts).toList = true := by
  induction parts with
  | nil => rw [String.intercalate_nil]; rfl
  | cons p parts ih =>
    have first := each p List.mem_cons_self
    cases parts with
    | nil => rwa [String.intercalate_singleton]
    | cons q rest =>
      have others := ih fun p hp => each p (List.mem_cons_of_mem _ hp)
      rw [String.intercalate_cons_cons, String.toList_append, String.toList_append, isValue_append, isValue_append,
        first, separator, others]
      rfl

theorem signedNames_ofParts {path query : List Char} {names : List String} :
    (CanonicalRequest.ofParts method path query names headers payload).signedNames = ";".intercalate names := by
  unfold CanonicalRequest.signedNames CanonicalRequest.ofParts
  rw [List.map_map]
  exact congrArg _ (List.map_id names)

theorem isValue_hexText (bytes : Bytes) : isValue (hexText bytes).toList = true := by
  unfold hexText
  rw [String.toList_ofList]
  exact List.all_eq_true.2 fun c hc => (isValueChar_hex hc).1

/-- **What a signature adds to a request can be sent.** -/
theorem isSendable_of_signed {credentials : Credentials} {scope : Scope} {signed : List Header}
    (ordinary : AreOrdinary headers)
    (key : isValue credentials.accessKey.toList = true) (region : isValue scope.region.toList = true)
    (service : isValue scope.service.toList = true)
    (made : signingHeaders? credentials scope method url headers body = some signed) (hh : h ∈ signed) :
    isSendable h = true := by
  rw [signingHeaders?_eq] at made
  obtain ⟨request, hrequest, rfl⟩ := Option.map_eq_some_iff.1 made
  obtain ⟨target, -, sendable, valid, rfl⟩ := (canonicalRequest?_eq_some_iff ordinary).1 hrequest
  have date : isValue scope.time.date.toList = true :=
    List.all_eq_true.2 fun c hc => (isValueChar_of_isDigit (isDigit_of_mem_date hc)).1
  have scopeText : isValue scope.text.toList = true := by
    refine isValue_intercalate (by decide) fun p hp => ?_
    simp only [List.mem_cons, List.not_mem_nil, or_false] at hp
    obtain rfl | rfl | rfl | rfl := hp
    · exact date
    · exact region
    · exact service
    · decide
  have names : isValue (";".intercalate (signedNames (takingPart headers credentials.sessionToken scope.time
      (String.ofList target.hostHeader) body))).toList = true := by
    refine isValue_intercalate (by decide) fun name hn => List.all_eq_true.2 fun c hc => ?_
    exact (isNameChar_facts (isNameChar_of_mem (isName_of_mem_signedNames sendable hn) hc)).1
  have fixed :
      ∀ s ∈ [Scope.algorithm, " Credential=", "/", ", SignedHeaders=", ", Signature="], isValue s.toList = true := by
    decide
  have own : ∀ n ∈ [dateHeader, "authorization", contentHashHeader, tokenHeader], isName n.toList = true := by decide
  obtain hh | hh := List.mem_append.1 hh
  · simp only [List.mem_cons, List.not_mem_nil, or_false] at hh
    unfold isSendable
    rw [Bool.and_eq_true]
    obtain rfl | rfl | rfl := hh
    · exact ⟨own _ (by simp), List.all_eq_true.2 fun c hc => (isValueChar_dateTime hc).1⟩
    · refine ⟨own _ (by simp), ?_⟩
      unfold authorization signature
      rw [signedNames_ofParts]
      simp only [String.toList_append, isValue_append, Bool.and_eq_true, isValue_hexText, key, scopeText, names,
        and_true]
      exact ⟨⟨⟨⟨fixed _ (by simp), fixed _ (by simp)⟩, fixed _ (by simp)⟩, fixed _ (by simp)⟩, fixed _ (by simp)⟩
    · exact ⟨own _ (by simp), isValue_hexText _⟩
  · obtain ⟨t, ht, rfl⟩ := Option.map_eq_some_iff.1 (Option.mem_toList.1 hh)
    unfold isSendable
    rw [Bool.and_eq_true]
    exact ⟨own _ (by simp), valid t ht⟩

end SearchDomain.Signature

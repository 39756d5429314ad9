import SearchDomain.Http.Target
import SearchDomain.Proofs.Http.Host
import SearchDomain.Proofs.Http.Url
/-!
# Origin — one address, read twice

An address is cut into its parts twice: as it is spelled, to be signed, and as a URL, to be sent. For a path and a query
in their final form below an origin with a plain name, both readings give the same path, the same query and the same
host (`Origin.url_eq`, `Origin.target_eq`, `Origin.hostHeader_eq`).
-/
namespace SearchDomain.Http

open Url (IsAuthority IsSettled isStill marked spelled splitPort splitUser)

/-- Where addresses of a host begin. -/
structure Origin where
  scheme : Scheme
  host : List Char
  port : Option Nat
  deriving DecidableEq, Repr

namespace Url

variable {cs host segment : List Char} {segments : List (List Char)} {query : Option (List Char)} {c : Char}

/-! ## Paths and queries in their final form -/

/-- A character that stays as it is in a query. -/
def isFormChar (c : Char) : Bool := Text.Percent.isComponentChar c || c == '='

/-- A path and a query that are not changed on the way. -/
structure IsFinal (segments : List (List Char)) (query : Option (List Char)) : Prop where
  nonempty : segments ≠ []
  settled : ∀ s ∈ segments, IsSettled s
  still : ∀ s ∈ segments, isStill s = true
  asked : ∀ q ∈ query, ∀ c ∈ q, isFormChar c = true

theorem isFormChar_facts (h : isFormChar c = true) :
    c.toNat < 128 ∧ 0x20 < c.toNat ∧ c ≠ '#' ∧ queryKeeps c.toNat.toUInt8 = true := by
  have ascii : c.toNat < 128 := by
    unfold isFormChar at h
    rw [Bool.or_eq_true, beq_iff_eq] at h
    obtain h | rfl := h
    · exact Text.Percent.ascii_of_isComponentChar h
    · decide
  exact ⟨ascii, Text.Percent.of_ascii (p := fun c => isFormChar c = true →
    0x20 < c.toNat ∧ c ≠ '#' ∧ queryKeeps c.toNat.toUInt8 = true) (by decide) ascii h⟩

theorem encodeQuery_of_final (h : ∀ q ∈ query, ∀ c ∈ q, isFormChar c = true) : encodeQuery query = query := by
  cases query with
  | none => rfl
  | some q =>
    have same : Text.Percent.encode queryKeeps q = q := Text.Percent.encode_of_kept fun c hc => by
      obtain ⟨ascii, -, -, kept⟩ := isFormChar_facts (h q rfl c hc)
      exact ⟨ascii, kept⟩
    unfold encodeQuery
    rw [Option.map_some, same]

/-- The path and the query behind the first slash. -/
def written (segments : List (List Char)) (query : Option (List Char)) : List Char :=
  List.intercalate ['/'] segments ++ marked '?' query

namespace IsFinal

variable (h : IsFinal segments query)
include h

theorem visible : ∀ c ∈ written segments query, 0x20 < c.toNat := by
  intro c hc
  obtain hc | hc := List.mem_append.1 hc
  · obtain rfl | ⟨s, hs, hc⟩ := Text.mem_joined hc
    · decide
    · exact (isComponentChar_facts (h.settled s hs c hc)).1
  cases query with
  | none => cases hc
  | some q =>
    obtain rfl | hc := List.mem_cons.1 hc
    · decide
    · exact (isFormChar_facts (h.asked q rfl c hc)).2.1

theorem splitTail_written :
    splitTail ('/' :: written segments query) = ('/' :: List.intercalate ['/'] segments, query, none) := by
  have whole : '/' :: written segments query = ('/' :: List.intercalate ['/'] segments) ++ marked '?' query := rfl
  rw [whole]
  refine splitTail_spelled (fun c hc => ?_) fun q hq hc => ?_
  · obtain rfl | hc := List.mem_cons.1 hc
    · decide
    obtain rfl | ⟨s, hs, hc⟩ := Text.mem_joined hc
    · decide
    · obtain ⟨-, -, -, query, fragment, -⟩ := isComponentChar_facts (h.settled s hs c hc)
      exact ⟨query, fragment⟩
  · exact (isFormChar_facts (h.asked q hq _ hc)).2.2.1 rfl

theorem absolutePath_eq : absolutePath ('/' :: List.intercalate ['/'] segments) = segments := by
  unfold absolutePath
  rw [List.drop_one, List.tail_cons, splitSlashes_intercalate h.settled h.nonempty,
    resolveSegments_still h.settled h.still, List.nil_append]

end IsFinal

theorem writePath_eq (nonempty : segments ≠ []) : writePath segments = '/' :: List.intercalate ['/'] segments := by
  induction segments with
  | nil => exact absurd rfl nonempty
  | cons s segments ih =>
    cases segments with
    | nil =>
      rw [List.intercalate_singleton]
      exact List.append_nil _
    | cons t rest =>
      have hrest := ih (List.cons_ne_nil _ _)
      unfold writePath at hrest ⊢
      rw [List.flatMap_cons, hrest, List.intercalate_cons_cons, List.append_assoc]
      rfl

/-! ## Hosts and ports -/

theorem splitUser_of_plain (h : '@' ∉ cs) : splitUser cs = (none, cs) := by
  unfold splitUser
  rw [if_neg (by simpa using h)]

theorem splitPort_of_plain {port : Option (List Char)} (h : ∀ c ∈ host, c ≠ ':' ∧ c ≠ '[') :
    splitPort false (host ++ marked ':' port) = (host, port) := by
  induction host with
  | nil => cases port <;> rfl
  | cons c host ih =>
    obtain ⟨colon, bracket⟩ := h c List.mem_cons_self
    have inside : (c == '[' || (false && c != ']')) = false := by simpa using bracket
    rw [List.cons_append, splitPort, if_neg (by simp [colon]), inside, ih fun d hd => h d (List.mem_cons_of_mem c hd)]

end Url

namespace Origin

variable {o : Origin} {segments : List (List Char)} {query : Option (List Char)} {found : Url} {cut : Target}

def authority (o : Origin) : List Char := o.host ++ marked ':' (o.port.map Host.writeNat)

def text (o : Origin) : List Char := o.scheme.name ++ ':' :: '/' :: '/' :: o.authority

/-- The URL of a path and a query below an origin. -/
def url (o : Origin) (segments : List (List Char)) (query : Option (List Char)) : Url where
  scheme := o.scheme
  user := none
  host := .name o.host
  port := o.port.bind fun n => if n = o.scheme.defaultPort then none else some n
  path := segments
  query := query
  fragment := none

/-- The parts of the same address as they are spelled. -/
def target (o : Origin) (segments : List (List Char)) (query : Option (List Char)) : Target where
  scheme := o.scheme.name
  authority := o.authority
  path := Url.writePath segments
  query := query.getD []

theorem isAuthority (named : Host.IsName o.host) : IsAuthority o.authority := by
  have digits : ∀ c, c.isDigit = true → 0x20 < c.toNat ∧ Url.endsAuthority c = false := by
    intro c hc
    have ascii : c.toNat < 128 := Nat.lt_of_le_of_lt (Text.Percent.bounds_of_isDigit hc).2 (by decide)
    exact Text.Percent.of_ascii (p := fun c => c.isDigit = true → 0x20 < c.toNat ∧ Url.endsAuthority c = false)
      (by decide) ascii hc
  have each : ∀ c ∈ o.authority, 0x20 < c.toNat ∧ Url.endsAuthority c = false := by
    intro c hc
    obtain hc | hc := List.mem_append.1 hc
    · obtain ⟨-, visible, -, -, -, -, -, within⟩ := Host.isNameChar_facts (named.chars c hc)
      exact ⟨visible, within⟩
    cases hport : o.port with
    | none =>
      rw [hport] at hc
      cases hc
    | some n =>
      rw [hport] at hc
      obtain rfl | hc := List.mem_cons.1 hc
      · decide
      · exact digits c (Host.isDigit_of_mem_writeNat hc)
  exact ⟨List.append_ne_nil_of_left_ne_nil named.ne_nil _, fun c hc => (each c hc).1, fun c hc => (each c hc).2⟩

theorem splitPort_authority (named : Host.IsName o.host) :
    splitPort false (splitUser o.authority).2 = (o.host, o.port.map Host.writeNat) ∧
      (splitUser o.authority).1 = none := by
  have plain : ∀ c ∈ o.host, c ≠ '@' ∧ c ≠ ':' ∧ c ≠ '[' := fun c hc => by
    obtain ⟨-, -, -, -, user, port, bracket, -⟩ := Host.isNameChar_facts (named.chars c hc)
    exact ⟨user, port, bracket⟩
  have noUser : '@' ∉ o.authority := by
    intro hc
    obtain hc | hc := List.mem_append.1 hc
    · exact (plain _ hc).1 rfl
    cases hport : o.port with
    | none =>
      rw [hport] at hc
      cases hc
    | some n =>
      rw [hport] at hc
      obtain he | hc := List.mem_cons.1 hc
      · cases he
      · exact absurd (Host.isDigit_of_mem_writeNat hc) (by decide)
  rw [Url.splitUser_of_plain noUser]
  exact ⟨Url.splitPort_of_plain fun c hc => (plain c hc).2, rfl⟩

/-- **The URL that an address is**, if it is one. -/
theorem url_eq (named : Host.IsName o.host) (final : Url.IsFinal segments query)
    (read : Url.ofChars? (spelled o.scheme o.authority (Url.written segments query)) = some found) :
    found = o.url segments query := by
  have auth := isAuthority named
  rw [Url.ofChars?_spelled auth final.visible] at read
  obtain ⟨host, port, hhost, hport, rfl⟩ := Url.ofAuthority?_some auth read
  obtain ⟨split, noUser⟩ := splitPort_authority named
  rw [split] at hhost hport
  obtain rfl := Host.parse?_eq named hhost
  have port_eq : port = o.port.bind fun n => if n = o.scheme.defaultPort then none else some n := by
    cases hp : o.port with
    | none =>
      rw [hp] at hport
      cases hport
      rfl
    | some n =>
      rw [hp] at hport
      exact Host.port?_writeNat hport
  rw [final.splitTail_written, noUser, port_eq, final.absolutePath_eq, Url.encodeQuery_of_final final.asked]
  rfl

/-- **The parts of an address as they are spelled**, if it is one. -/
theorem target_eq (named : Host.IsName o.host) (final : Url.IsFinal segments query)
    (read : Target.ofChars? (spelled o.scheme o.authority (Url.written segments query)) = some cut) :
    cut = o.target segments query := by
  have auth := isAuthority named
  have scheme : Target.scheme? (spelled o.scheme o.authority (Url.written segments query)) =
      some (o.scheme.name, o.authority ++ '/' :: Url.written segments query) := by
    unfold Target.scheme? spelled
    cases o.scheme <;> rfl
  -- a backslash would end the authority of a URL only
  have within : ∀ c ∈ o.authority, (!Target.endsAuthority c) = true := by
    intro c hc
    have hc := auth.within c hc
    unfold Url.endsAuthority Url.isSlash at hc
    unfold Target.endsAuthority
    simp only [Bool.or_eq_false_iff, Bool.not_eq_true'] at hc ⊢
    exact ⟨⟨hc.1.1.1, hc.1.2⟩, hc.2⟩
  unfold Target.ofChars? at read
  rw [scheme] at read
  split at read
  · cases read
  simp only [Option.bind_eq_bind, Option.bind_some] at read
  rw [List.takeWhile_append_of_pos within, List.dropWhile_append_of_pos within, List.takeWhile_cons_of_neg (by decide),
    List.dropWhile_cons_of_neg (by decide), List.append_nil, final.splitTail_written] at read
  simp only at read
  split at read
  · rw [if_neg (List.cons_ne_nil _ _), ← Url.writePath_eq final.nonempty] at read
    exact (Option.some.inj read).symm
  · cases read

/-- **The host that is signed is the host that is asked.** -/
theorem hostHeader_eq (named : Host.IsName o.host) :
    (o.target segments query).hostHeader = (o.url segments query).authority := by
  have scheme : Scheme.ofName? o.scheme.name = some o.scheme := by cases o.scheme <;> rfl
  unfold Target.hostHeader Url.authority target url
  simp only
  rw [(splitPort_authority named).1, scheme]
  unfold authority
  cases o.port with
  | none => rfl
  | some n =>
    simp only [Option.map_some, Option.any_some, decide_eq_true_eq, Option.bind_some]
    by_cases own : n = o.scheme.defaultPort
    · rw [if_pos (congrArg Host.writeNat own), if_pos own]
      exact (List.append_nil _).symm
    · rw [if_neg fun he => own (Host.writeNat_injective he), if_neg own]
      rfl

theorem noBlank_hostHeader (named : Host.IsName o.host) : ' ' ∉ (o.target segments query).hostHeader := by
  have auth := isAuthority named
  have noHost : ' ' ∉ o.host := fun h => absurd (Host.isNameChar_facts (named.chars _ h)).2.1 (by decide)
  have noAuthority : ' ' ∉ o.authority := fun h => absurd (auth.visible _ h) (by decide)
  unfold Target.hostHeader target
  simp only
  rw [(splitPort_authority named).1]
  split
  · rename_i host port he
    obtain ⟨rfl, -⟩ := Prod.mk.inj he
    split
    · exact noHost
    · exact noAuthority
  · exact noAuthority

end Origin
end SearchDomain.Http

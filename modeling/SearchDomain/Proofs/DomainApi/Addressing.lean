import Mathlib.Data.List.Forall2
import SearchDomain.Proofs.DomainApi.OwnReply
import SearchDomain.Proofs.DomainApi.Prepared
import SearchDomain.Proofs.Http.Url
/-!
# Addressing — whether a request goes to the thing it names

The path of a user or of a saved object leads below a fixed prefix to one segment for each name, and names that are
told apart have segments that are. A name that is one or two dots is the exception: its segment is a step, so that it
disappears from the address on the way, and the request goes to something else (`addresses_iff`).
-/
namespace SearchDomain.DomainApi

open Http (Scheme)
open Http.Url (IsAuthority IsSettled isStill absolutePath resolveSegments spelled)
open Text.Percent (component)
open Text.Utf8 (ofString)

/-- What a path names: an internal user, or a saved object by its kind and id. -/
inductive Named
  | user (name : String)
  | object (kind id : String)
  deriving DecidableEq, Repr

namespace Named

def path : Named → String
  | user name => Path.internalUser name
  | object kind id => Path.savedObject kind id

def aboveUsers : List (List Char) := ["_plugins".toList, "_security".toList, "api".toList, "internalusers".toList]

def aboveObjects : List (List Char) := ["_dashboards".toList, "api".toList, "saved_objects".toList]

/-- The segments that are the same for all of a sort. -/
def above : Named → List (List Char)
  | user _ => aboveUsers
  | object _ _ => aboveObjects

def names : Named → List String
  | user name => [name]
  | object kind id => [kind, id]

/-- A path leads to one segment for each name, and these spell the names. -/
def Addressed (n : Named) (path : List (List Char)) : Prop :=
  ∃ segments, path = n.above ++ segments ∧
    List.Forall₂ (fun segment name => Text.Percent.decode segment = ofString name) segments n.names

/-- None of the names is a step. -/
def IsPlain (n : Named) : Prop := ∀ name ∈ n.names, name ≠ "." ∧ name ≠ ".."

variable {n m : Named} {path : List (List Char)} {kind id name : String} {above : List (List Char)}

/-- The segments that a path is spelled with. -/
def segments (n : Named) : List (List Char) := n.above ++ n.names.map fun name => (component name).toList

theorem path_eq (n : Named) : n.path.toList = List.intercalate ['/'] n.segments := by
  cases n with
  | user name =>
    have fixed : "_plugins/_security/api/internalusers/".toList = List.intercalate ['/'] (aboveUsers ++ [[]]) := by
      decide
    unfold path Path.internalUser
    rw [String.toList_append, fixed]
    simp [segments, above, names, aboveUsers, List.intercalate_cons_cons]
  | object kind id =>
    have fixed : "_dashboards/api/saved_objects/".toList = List.intercalate ['/'] (aboveObjects ++ [[]]) := by decide
    have slash : "/".toList = ['/'] := by decide
    unfold path Path.savedObject
    rw [String.toList_append, String.toList_append, String.toList_append, fixed, slash]
    simp [segments, above, names, aboveObjects, List.intercalate_cons_cons]

theorem relative (n : Named) : n.path.toList.head? ≠ some '/' := by
  have first : n.path.toList.head? = some '_' := by
    rw [path_eq]
    cases n <;> rfl
  rw [first]
  decide

theorem settled_above (n : Named) : ∀ s ∈ n.above, IsSettled s := by
  have users : ∀ s ∈ aboveUsers, s.all Text.Percent.isComponentChar = true := by decide
  have objects : ∀ s ∈ aboveObjects, s.all Text.Percent.isComponentChar = true := by decide
  intro s hs
  cases n with
  | user name => exact List.all_eq_true.1 (users s hs)
  | object kind id => exact List.all_eq_true.1 (objects s hs)

theorem still_above (n : Named) : ∀ s ∈ n.above, isStill s = true := by
  have users : ∀ s ∈ aboveUsers, isStill s = true := by decide
  have objects : ∀ s ∈ aboveObjects, isStill s = true := by decide
  cases n with
  | user name => exact users
  | object kind id => exact objects

theorem settled_component (name : String) : IsSettled (component name).toList :=
  Text.Percent.isComponentChar_of_mem name

theorem settled_segments (n : Named) : ∀ s ∈ n.segments, IsSettled s := by
  intro s hs
  obtain hs | hs := List.mem_append.1 hs
  · exact settled_above n s hs
  · obtain ⟨name, -, rfl⟩ := List.mem_map.1 hs
    exact settled_component name

theorem names_ne_nil (n : Named) : n.names ≠ [] := by cases n <;> exact List.cons_ne_nil _ _

/-- What an address makes of a path. -/
def resolved (n : Named) : List (List Char) :=
  resolveSegments n.above (n.names.map fun name => (component name).toList)

theorem absolutePath_path (n : Named) : absolutePath ('/' :: n.path.toList) = n.resolved := by
  have more : n.names.map (fun name => (component name).toList) ≠ [] :=
    fun h => n.names_ne_nil (List.map_eq_nil_iff.1 h)
  unfold absolutePath
  rw [List.drop_one, List.tail_cons, path_eq,
    Http.Url.splitSlashes_intercalate n.settled_segments (List.append_ne_nil_of_right_ne_nil _ more)]
  unfold segments
  rw [Http.Url.resolveSegments_of_plain n.settled_above n.still_above more]
  rfl

theorem resolved_of_plain (plain : n.IsPlain) : n.resolved = n.segments := by
  refine Http.Url.resolveSegments_still (fun s hs => ?_) (fun s hs => ?_)
  · obtain ⟨name, -, rfl⟩ := List.mem_map.1 hs
    exact settled_component name
  · obtain ⟨name, hname, rfl⟩ := List.mem_map.1 hs
    exact Http.Url.isStill_component_iff.2 (plain name hname)

theorem addressed_of_plain (plain : n.IsPlain) : n.Addressed n.resolved := by
  refine ⟨n.names.map fun name => (component name).toList, resolved_of_plain plain, ?_⟩
  rw [List.forall₂_map_left_iff]
  exact List.forall₂_same.2 fun name _ => Text.Percent.decode_component name

/-- A last name that is a step leaves an empty segment, or one segment less. -/
theorem plain_of_last {done above : List (List Char)} {segment : List Char}
    (h : resolveSegments done [(component name).toList] = above ++ [segment]) (length : above.length = done.length)
    (spells : Text.Percent.decode segment = ofString name) : name ≠ "." ∧ name ≠ ".." := by
  have dots : ∀ s ∈ [".", ".."], ofString s ≠ [] := by decide
  rw [Http.Url.resolveSegments_last (settled_component name)] at h
  constructor
  · rintro rfl
    rw [if_neg (by decide), if_pos (by decide)] at h
    obtain ⟨-, he⟩ := List.append_inj h length.symm
    cases he
    exact dots "." (by simp) spells.symm
  · rintro rfl
    rw [if_pos (by decide)] at h
    have total := congrArg List.length h
    simp only [List.length_append, List.length_dropLast, List.length_singleton] at total
    obtain rfl := List.length_eq_zero_iff.1 (show done.length = 0 by omega)
    obtain rfl := List.length_eq_zero_iff.1 (show above.length = 0 by omega)
    cases h
    exact dots ".." (by simp) spells.symm

theorem plain_of_addressed_user (h : (user name).Addressed (user name).resolved) : (user name).IsPlain := by
  obtain ⟨segments, hpath, spell⟩ := h
  obtain ⟨segment, rest, spells, last, rfl⟩ := List.forall₂_cons_right_iff.1 spell
  obtain rfl := List.forall₂_nil_right_iff.1 last
  intro other hother
  obtain rfl := List.mem_singleton.1 hother
  exact plain_of_last hpath rfl spells

theorem plain_of_addressed_object (h : (object kind id).Addressed (object kind id).resolved) :
    (object kind id).IsPlain := by
  obtain ⟨segments, hpath, spell⟩ := h
  obtain ⟨segment, rest, spells, more, rfl⟩ := List.forall₂_cons_right_iff.1 spell
  obtain ⟨segment', rest, spells', last, rfl⟩ := List.forall₂_cons_right_iff.1 more
  obtain rfl := List.forall₂_nil_right_iff.1 last
  have resolved : (object kind id).resolved =
      resolveSegments aboveObjects [(component kind).toList, (component id).toList] := rfl
  rw [resolved, Http.Url.resolveSegments_next (settled_component kind) (List.cons_ne_nil _ _)] at hpath
  have five : ((object kind id).above ++ [segment, segment']).length = 5 := rfl
  have length := (congrArg List.length hpath).trans five
  have short := fun done => Http.Url.length_resolveSegments_last done (settled_component id)
  -- a kind that is a step leaves too few segments
  split at hpath
  · rename_i double
    rw [if_pos double] at length
    have few := short aboveObjects.dropLast
    rw [length] at few
    exact absurd few (by decide)
  rename_i double
  split at hpath
  · rename_i single
    rw [if_neg double, if_pos single] at length
    have few := short aboveObjects
    rw [length] at few
    exact absurd few (by decide)
  rename_i single
  have still : isStill (component kind).toList = true := by
    unfold isStill
    simp [double, single]
  intro other hother
  obtain rfl | hother := List.mem_cons.1 hother
  · exact Http.Url.isStill_component_iff.1 still
  · obtain rfl := List.mem_singleton.1 hother
    have hpath := hpath.trans (List.append_assoc aboveObjects [segment] [segment']).symm
    exact plain_of_last hpath (by rw [List.length_append, List.length_append]; rfl) spells'

/-- **A path leads to what it names exactly if no name is a step.** -/
theorem addressed_iff (n : Named) : n.Addressed n.resolved ↔ n.IsPlain := by
  refine ⟨fun h => ?_, addressed_of_plain⟩
  cases n with
  | user name => exact plain_of_addressed_user h
  | object kind id => exact plain_of_addressed_object h

/-- Plain names of the same place are the same. -/
theorem eq_of_resolved (plain : n.IsPlain) (plain' : m.IsPlain) (h : n.resolved = m.resolved) : n = m := by
  rw [resolved_of_plain plain, resolved_of_plain plain'] at h
  have component_inj : ∀ {s t : String}, (component s).toList = (component t).toList → s = t := fun he =>
    Text.Percent.component_injective (String.toList_inj.1 he)
  have apart : "_plugins".toList ≠ "_dashboards".toList := by decide
  cases n with
  | user name =>
    cases m with
    | user name' =>
      obtain ⟨-, he⟩ := List.append_inj h rfl
      rw [component_inj (List.cons.inj he).1]
    | object kind id => exact absurd (List.cons.inj h).1 apart
  | object kind id =>
    cases m with
    | user name => exact absurd (List.cons.inj h).1 apart.symm
    | object kind' id' =>
      obtain ⟨-, he⟩ := List.append_inj h rfl
      obtain ⟨hkind, he⟩ := List.cons.inj he
      rw [component_inj hkind, component_inj (List.cons.inj he).1]

end Named

namespace Client

variable {c : Client} {scheme : Scheme} {authority : List Char} {n m : Named} {moment moment' : Moment}
  {request request' : Request} {r r' : Http.Request}

/-- The address of a path that does not begin with a slash. -/
theorem url_toList {path : String} (base : c.baseUrl.toList = scheme.name ++ ':' :: '/' :: '/' :: authority)
    (relative : path.toList.head? ≠ some '/') : (c.url path).toList = spelled scheme authority path.toList := by
  have whole : path.toList.dropWhile (· == '/') = path.toList := by
    cases hp : path.toList with
    | nil => rfl
    | cons d ds =>
      rw [hp] at relative
      exact List.dropWhile_cons_of_neg (by simpa using relative)
  unfold url Endpoint.url
  rw [String.toList_append, String.toList_append, String.toList_ofList, whole, base]
  simp [spelled]

theorem path_of_prepare (auth : IsAuthority authority)
    (base : c.baseUrl.toList = scheme.name ++ ':' :: '/' :: '/' :: authority) (names : request.path = n.path)
    (prepared : c.prepare moment request = .ok r) : r.url.path = n.resolved := by
  obtain ⟨credentials, signed, url, -, -, read, -, -, rfl⟩ := prepare_ok_iff.1 prepared
  have kept : (withoutCredentials url).1.path = url.path := by
    unfold withoutCredentials
    split <;> rfl
  have settled : ∀ c ∈ n.path.toList, c = '/' ∨ Text.Percent.isComponentChar c = true := by
    rw [n.path_eq]
    intro c hc
    obtain rfl | ⟨s, hs, hc⟩ := Text.mem_joined hc
    · exact .inl rfl
    · exact .inr (n.settled_segments s hs c hc)
  have plain : ∀ c ∈ n.path.toList, 0x20 < c.toNat ∧ c ≠ '?' ∧ c ≠ '#' := by
    intro c hc
    obtain rfl | hc := settled c hc
    · decide
    · obtain ⟨visible, -, -, query, fragment, -⟩ := Http.Url.isComponentChar_facts hc
      exact ⟨visible, query, fragment⟩
  rw [names] at read
  unfold Http.Url.parse? at read
  rw [url_toList base n.relative, Http.Url.ofChars?_spelled auth fun c hc => (plain c hc).1] at read
  obtain ⟨host, port, -, -, rfl⟩ := Http.Url.ofAuthority?_some auth read
  have tail : ∀ c ∈ '/' :: n.path.toList, c ≠ '?' ∧ c ≠ '#' := by
    intro c hc
    obtain rfl | hc := List.mem_cons.1 hc
    · decide
    · exact (plain c hc).2
  have split : Http.Url.splitTail ('/' :: n.path.toList ++ Http.Url.marked '?' none) =
      ('/' :: n.path.toList, none, none) :=
    Http.Url.splitTail_spelled tail nofun
  rw [Http.Url.marked, List.append_nil] at split
  rw [kept]
  show absolutePath (Http.Url.splitTail ('/' :: n.path.toList)).1 = n.resolved
  rw [split, n.absolutePath_path]

/-- **Whether a request goes to the thing it names.** Below any base, the address that is sent leads to a user or a
saved object exactly if no name is a step, and then to this one alone. -/
theorem addresses_iff (auth : IsAuthority authority)
    (base : c.baseUrl.toList = scheme.name ++ ':' :: '/' :: '/' :: authority) (names : request.path = n.path)
    (prepared : c.prepare moment request = .ok r) :
    (n.Addressed r.url.path ↔ n.IsPlain) ∧
      ∀ {m moment' request' r'}, request'.path = Named.path m → c.prepare moment' request' = .ok r' →
        n.IsPlain → m.IsPlain → r.url = r'.url → n = m := by
  have hpath := path_of_prepare auth base names prepared
  refine ⟨?_, fun names' prepared' plain plain' same => ?_⟩
  · rw [hpath]
    exact n.addressed_iff
  · refine Named.eq_of_resolved plain plain' ?_
    rw [← hpath, ← path_of_prepare auth base names' prepared', same]

/-- A request without headers and body is prepared, for the address that its path leads to. -/
theorem plain_prepares (method : Method) {path : String} {url : Http.Url}
    (read : Http.Url.parse? (plain.url path) = some url)
    (spelled : (Http.Target.ofChars? (plain.url path).toList).isSome = true)
    (writable : (Http.Target.ofChars? (withoutCredentials url).1.write).isSome = true) :
    ∃ r, plain.prepare ⟨⟨1440938160⟩, ""⟩ { method, path } = .ok r ∧ r.url = (withoutCredentials url).1 := by
  obtain ⟨target, htarget⟩ := Option.isSome_iff_exists.1 spelled
  exact prepared_of_sendable rfl nofun (by decide) (by decide) nofun nofun htarget read writable

/-- An address of the domain, for segments of a path. -/
def addressOf (path : List String) : Http.Url where
  scheme := .http
  user := none
  host := .name "search.example.com".toList
  port := none
  path := path.map String.toList
  query := none
  fragment := none

theorem addresses_iff_spaced :
    ∃ r, plain.prepare ⟨⟨1440938160⟩, ""⟩ { method := .patch, path := Path.internalUser "ops team/eu" } = .ok r ∧
      (Named.user "ops team/eu").IsPlain ∧ (Named.user "ops team/eu").Addressed r.url.path := by
  have read : Http.Url.parse? (plain.url (Path.internalUser "ops team/eu")) =
      some (addressOf ["_plugins", "_security", "api", "internalusers", "ops%20team%2Feu"]) := by decide +kernel
  obtain ⟨r, prepared, -⟩ := plain_prepares .patch read (by decide +kernel) (by decide +kernel)
  have spaced : (Named.user "ops team/eu").IsPlain := by
    intro name hname
    obtain rfl := List.mem_singleton.1 hname
    decide
  have all :
      "search.example.com".toList.all (fun c => decide (0x20 < c.toNat) && !Http.Url.endsAuthority c) = true := by
    decide
  have each : ∀ c ∈ "search.example.com".toList, 0x20 < c.toNat ∧ Http.Url.endsAuthority c = false := fun c hc => by
    simpa using List.all_eq_true.1 all c hc
  have auth : IsAuthority "search.example.com".toList :=
    ⟨by decide, fun c hc => (each c hc).1, fun c hc => (each c hc).2⟩
  have base : plain.baseUrl.toList = Scheme.http.name ++ ':' :: '/' :: '/' :: "search.example.com".toList := by decide
  exact ⟨r, prepared, spaced, (addresses_iff auth base rfl prepared).1.2 spaced⟩

/-- The request for a user of two dots goes to the whole security interface, and the requests for an object of two dots
go to the same place whatever the kind. -/
theorem steps_lead_elsewhere :
    ∃ user dashboard lens,
      plain.prepare ⟨⟨1440938160⟩, ""⟩ { method := .delete, path := Path.internalUser ".." } = .ok user ∧
      plain.prepare ⟨⟨1440938160⟩, ""⟩ { method := .delete, path := Path.savedObject "dashboard" ".." } =
        .ok dashboard ∧
      plain.prepare ⟨⟨1440938160⟩, ""⟩ { method := .delete, path := Path.savedObject "lens" ".." } = .ok lens ∧
      user.url.text = "http://search.example.com/_plugins/_security/api/" ∧
      ¬ (Named.user "..").Addressed user.url.path ∧ dashboard.url = lens.url := by
  have readUser : Http.Url.parse? (plain.url (Path.internalUser "..")) =
      some (addressOf ["_plugins", "_security", "api", ""]) := by
    decide +kernel
  have readObject : ∀ kind ∈ ["dashboard", "lens"], Http.Url.parse? (plain.url (Path.savedObject kind "..")) =
      some (addressOf ["_dashboards", "api", "saved_objects", ""]) := by decide +kernel
  obtain ⟨user, preparedUser, huser⟩ := plain_prepares .delete readUser (by decide +kernel) (by decide +kernel)
  obtain ⟨dashboard, preparedDashboard, hdashboard⟩ :=
    plain_prepares .delete (readObject "dashboard" (by simp)) (by decide +kernel) (by decide +kernel)
  obtain ⟨lens, preparedLens, hlens⟩ :=
    plain_prepares .delete (readObject "lens" (by simp)) (by decide +kernel) (by decide +kernel)
  refine ⟨user, dashboard, lens, preparedUser, preparedDashboard, preparedLens, ?_, ?_, hdashboard.trans hlens.symm⟩
  · rw [huser]
    decide +kernel
  · rw [huser]
    rintro ⟨segments, hpath, spell⟩
    have one := spell.length_eq
    have four := congrArg List.length hpath
    rw [List.length_append, one] at four
    exact absurd four (by decide)

end Client
end SearchDomain.DomainApi

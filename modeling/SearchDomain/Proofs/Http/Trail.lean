import SearchDomain.Http.Network
/-!
# Trail — the requests that are made for one

A client makes one request after the other for as long as the replies redirect it, and hands on the last reply as if it
were the first. A trail has all of them, each with its reply. There is at most one, and what a client reports is what
is found at its end (`fetch_ok_iff`). All of this holds for every redirect rule.
-/
namespace SearchDomain.Http

variable {σ : Type} {rule : RedirectRule} {network : Network σ} {request next : Request} {reply : Reply} {s s' s'' : σ}
  {left : Nat}

/-- A request that was made, and the reply to it. -/
structure Hop where
  request : Request
  reply : Reply
  deriving DecidableEq, Repr

/-- The hops from a request to the reply that stays: first those that redirect, then the last one. -/
inductive Trail (rule : RedirectRule) (network : Network σ) : Request → σ → List Hop → Hop → σ → Prop
  | ends {request : Request} {reply : Reply} {s s' : σ} (answered : network request s = (some reply, s'))
      (stays : request.redirected? rule reply = none) : Trail rule network request s [] ⟨request, reply⟩ s'
  | goes {request next : Request} {reply : Reply} {s s' s'' : σ} {hops : List Hop} {last : Hop}
      (answered : network request s = (some reply, s')) (moves : request.redirected? rule reply = some (.ok next))
      (rest : Trail rule network next s' hops last s'') :
        Trail rule network request s (⟨request, reply⟩ :: hops) last s''

/-! ## One redirect -/

theorem status_of_redirected {next : Except Failure Request} (h : request.redirected? rule reply = some next) :
    reply.status = 301 ∨ reply.status = 302 ∨ reply.status = 303 ∨ reply.status = 307 ∨ reply.status = 308 := by
  obtain ⟨reference, pointed, -⟩ := Option.map_eq_some_iff.1 h
  unfold Request.pointed? at pointed
  split at pointed
  · rename_i status
    simpa [redirectStatuses] using status
  · cases pointed

/-- Where a redirect leads, and what is asked there. -/
theorem next_of_redirected (moves : request.redirected? rule reply = some (.ok next)) :
    ∃ url, next = (if rule.becomesGet reply.status request.method then request.asGet else request).movedTo url := by
  obtain ⟨reference, -, he⟩ := Option.map_eq_some_iff.1 moves
  cases reference with
  | address url => exact ⟨url, (Except.ok.inj he).symm⟩
  | foreign spelled => cases he

/-- **A redirected request asks the same again, or it is a GET without a body**, as the rule has it. -/
theorem asked_of_redirected (moves : request.redirected? rule reply = some (.ok next)) :
    (next.method, next.body) =
      if rule.becomesGet reply.status request.method then ("GET", []) else (request.method, request.body) := by
  obtain ⟨url, rfl⟩ := next_of_redirected moves
  split <;> rfl

/-! ## Following replies -/

theorem follow_of_stays (h : network request s = (some reply, s')) (stays : request.redirected? rule reply = none) :
    follow rule network left request s = (.ok reply, s') := by
  unfold follow
  simp only [h, stays]

theorem follow_succ_of_moves (h : network request s = (some reply, s'))
    (moves : request.redirected? rule reply = some (.ok next)) :
    follow rule network (left + 1) request s = follow rule network left next s' := by
  rw [follow]
  simp only [h, moves]

theorem Trail.follow {hops : List Hop} {last : Hop} (trail : Trail rule network request s hops last s') :
    ∀ {left : Nat}, hops.length ≤ left → Http.follow rule network left request s = (.ok last.reply, s') := by
  induction trail with
  | ends answered stays => exact fun _ => follow_of_stays answered stays
  | goes answered moves rest ih =>
    intro left hl
    match left, hl with
    | left + 1, hl =>
      rw [follow_succ_of_moves answered moves]
      exact ih (Nat.le_of_succ_le_succ hl)

theorem trail_of_follow (h : Http.follow rule network left request s = (.ok reply, s')) :
    ∃ hops last, Trail rule network request s hops last s' ∧ hops.length ≤ left ∧ last.reply = reply := by
  fun_induction Http.follow rule network left request s with
  | case1 left request s s₁ silent => cases h
  | case2 left request s first s₁ answered stays =>
    cases h
    exact ⟨[], _, .ends answered stays, Nat.zero_le _, rfl⟩
  | case3 request s first s₁ answered next moves => cases h
  | case4 request s first s₁ answered left failure moves => cases h
  | case5 request s first s₁ answered left next moves ih =>
    obtain ⟨hops, last, trail, hl, hr⟩ := ih h
    exact ⟨_, last, .goes answered moves trail, Nat.succ_le_succ hl, hr⟩

/-- **A reply is had at the end of a trail**, unless that is too long. -/
theorem follow_ok_iff : follow rule network left request s = (.ok reply, s') ↔
    ∃ hops last, Trail rule network request s hops last s' ∧ hops.length ≤ left ∧ last.reply = reply := by
  constructor
  · exact trail_of_follow
  · rintro ⟨hops, last, trail, hl, rfl⟩
    exact trail.follow hl

/-- What a client reports is the end of the trail, if its body is complete. -/
theorem fetch_ok_iff {status : Nat} {body : String} : fetch rule network request s = (.ok (status, body), s') ↔
    ∃ hops last, Trail rule network request s hops last s' ∧ hops.length ≤ maxRedirects ∧ last.reply.complete = true ∧
      last.reply.status = status ∧ Text.Utf8.decodeLossy last.reply.body = body := by
  constructor
  · intro h
    obtain ⟨answer, s₁, hf⟩ : ∃ answer s₁, follow rule network maxRedirects request s = (answer, s₁) := ⟨_, _, rfl⟩
    unfold fetch at h
    simp only [hf] at h
    cases answer with
    | error e => cases h
    | ok reply =>
      obtain ⟨hops, last, trail, hl, rfl⟩ := follow_ok_iff.1 hf
      by_cases hc : last.reply.complete = true
      · simp only [bind, Except.bind, if_pos hc, pure, Except.pure] at h
        cases h
        exact ⟨hops, last, trail, hl, hc, rfl, rfl⟩
      · simp only [bind, Except.bind, if_neg hc] at h
        cases h
  · rintro ⟨hops, last, trail, hl, hc, rfl, rfl⟩
    unfold fetch
    simp only [follow_ok_iff.2 ⟨hops, last, trail, hl, rfl⟩, bind, Except.bind, if_pos hc, pure, Except.pure]

/-! ## Where a trail begins -/

/-- The reply to a request, if there is one, does not redirect. -/
def Stays (rule : RedirectRule) (network : Network σ) (request : Request) (s : σ) : Prop :=
  ∀ reply s', network request s = (some reply, s') → request.redirected? rule reply = none

variable {hops : List Hop} {hop last : Hop}

/-- A trail has one hop only exactly if the first reply does not redirect. -/
theorem Trail.nil_iff (trail : Trail rule network request s hops last s') :
    hops = [] ↔ Stays rule network request s := by
  cases trail with
  | ends answered stays =>
    refine ⟨fun _ reply s₁ h => ?_, fun _ => rfl⟩
    cases answered.symm.trans h
    exact stays
  | goes answered moves rest =>
    refine ⟨fun h => (nomatch h), fun stays => ?_⟩
    cases (stays _ _ answered).symm.trans moves

theorem Trail.last_request (trail : Trail rule network request s [] last s') : last.request = request := by
  cases trail
  rfl

theorem Trail.head_redirects (trail : Trail rule network request s (hop :: hops) last s') :
    hop.request = request ∧ ∃ next s₁, hop.request.redirected? rule hop.reply = some (.ok next) ∧
      Trail rule network next s₁ hops last s' := by
  cases trail with
  | goes answered moves rest => exact ⟨rfl, _, _, moves, rest⟩

/-- A GET is followed by GETs alone. -/
theorem Trail.gets (trail : Trail rule network request s hops last s') (get : request.method = "GET") :
    ∀ hop ∈ hops ++ [last], hop.request.method = "GET" := by
  induction trail with
  | ends answered stays =>
    intro hop hm
    rw [List.mem_singleton.1 hm]
    exact get
  | @goes request next reply s s' s'' hops last answered moves rest ih =>
    have get' : next.method = "GET" := by
      rw [show next.method = _ from congrArg Prod.fst (asked_of_redirected moves), get]
      split <;> rfl
    intro hop hm
    obtain rfl | hm := List.mem_cons.1 hm
    · exact get
    · exact ih get' hop hm

end SearchDomain.Http

import SessionGate.Proofs.Refresh
import SessionGate.Proofs.RolePaths

/-!
# Who is let in while policies change

A question whether a user is let in takes its policy along when it begins, waits for keys, and is
answered when they come, by the clock of that moment. In between other policies may be installed.
`GroupRun.run_ruling` says that they make no difference, and what the answer is in terms of groups
and roles alone.

## What a run is

A `GroupEvent` is one of the things that happen: a policy is installed, a question begins, the keys
for one come, the clock is set. Every list of events is a run, and a question may begin while others
wait. What an answer is computed by is `Provider.validateUnder`; a question whose keys come at once
is `Provider.validateGroup`, which is `GroupRun.validateGroup_eq_run`.

## An empty policy

A policy without groups lets everybody in without looking for keys. So the answer has two cases
which are far apart, and a group more may only turn a no into a yes where there is a group already.
-/

namespace SessionGate

/-! ## Rulings -/

namespace Provider

def withSource (p : Provider) (keys : KeySource) : Provider :=
  { p with verifier := { p.verifier with keys } }

/-- The identity token of a session is accepted, and its claims list a role where a policy looks for
it. -/
def Holds (p : Provider) (now : Int) (policy : GroupPolicy) (s : Session) (role : Text) : Prop :=
  ∃ claims, p.verifier.check now s.idToken = .ok claims ∧ policy.source.Lists claims role

/-- The answer to the question whether a policy lets the user of a session in. -/
def ruling (p : Provider) (policy : GroupPolicy) (now : Int) (s : Session) : Except Failure Bool :=
  (p.judge policy now s.idToken).answer.mapError .defect

variable {p : Provider} {policy : GroupPolicy} {now : Int} {s : Session}

/-- **Whom a policy lets in**: everybody if it has no groups, and otherwise those who hold one. -/
theorem ruling_eq_ok_true_iff :
    p.ruling policy now s = .ok true ↔
      policy.groups = [] ∨ ∃ role ∈ policy.groups, p.Holds now policy s role := by
  rw [ruling, mapError_eq_ok_iff, Decision.answer_eq_ok_true_iff, judge_admits_iff,
    GroupPolicy.restricts_eq_false_iff]
  refine or_congr_right ?_
  simp only [GroupPolicy.matchesClaims_eq_true_iff, Holds]
  constructor
  · rintro ⟨claims, hcheck, role, hrole, hlists⟩
    exact ⟨role, hrole, claims, hcheck, hlists⟩
  · rintro ⟨role, hrole, claims, hcheck, hlists⟩
    exact ⟨claims, hcheck, role, hrole, hlists⟩

theorem ruling_of_not_restricts (h : policy.restricts = false) :
    p.ruling policy now s = .ok true :=
  ruling_eq_ok_true_iff.mpr (.inl (GroupPolicy.restricts_eq_false_iff.mp h))

theorem validateGroup_eq_ruling (w : World) :
    ((p.validateGroup s).perform w).1 = p.ruling w.policy w.now.seconds s := by
  rw [perform_validateGroup, perform_validateUnder]
  rfl

/-- A ruling depends on which groups there are and which roles are held, and on nothing else about
them. -/
theorem ruling_congr {p' : Provider} {policy' : GroupPolicy} {now' : Int} {s' : Session}
    (hgroups : ∀ group, group ∈ policy.groups ↔ group ∈ policy'.groups)
    (hroles : ∀ role, p.Holds now policy s role ↔ p'.Holds now' policy' s' role) :
    p.ruling policy now s = .ok true ↔ p'.ruling policy' now' s' = .ok true := by
  have hnil : policy.groups = [] ↔ policy'.groups = [] := by
    rw [List.eq_nil_iff_forall_not_mem, List.eq_nil_iff_forall_not_mem]
    exact forall_congr' fun group ↦ not_congr (hgroups group)
  rw [ruling_eq_ok_true_iff, ruling_eq_ok_true_iff, hnil]
  exact or_congr_right (exists_congr fun role ↦ and_congr (hgroups role) (hroles role))

/-- More groups let more users in, unless there were none. -/
theorem ruling_mono {policy' : GroupPolicy} (hrestricts : policy.restricts = true)
    (hsource : policy'.source = policy.source) (hsub : policy.groups ⊆ policy'.groups)
    (h : p.ruling policy now s = .ok true) : p.ruling policy' now s = .ok true := by
  rcases ruling_eq_ok_true_iff.mp h with hnil | ⟨role, hrole, claims, hcheck, hlists⟩
  · exact absurd hnil (GroupPolicy.restricts_eq_true_iff.mp hrestricts)
  · refine ruling_eq_ok_true_iff.mpr (.inr ⟨role, hsub hrole, claims, hcheck, ?_⟩)
    rw [hsource]
    exact hlists

/-- Who is let in by a policy that restricts has a valid session. -/
theorem validateSession_of_ruling {w : World} (hrestricts : policy.restricts = true)
    (h : p.ruling policy w.now.seconds s = .ok true) :
    ((p.validateSession s).perform w).1 = .ok true := by
  rcases ruling_eq_ok_true_iff.mp h with hnil | ⟨role, hrole, claims, hcheck, hlists⟩
  · exact absurd hnil (GroupPolicy.restricts_eq_true_iff.mp hrestricts)
  · exact (validateSession_eq_ok_true_iff p s w).mpr ⟨claims, hcheck⟩

end Provider

/-! ## Events -/

/-- What may happen while users are let in. -/
inductive GroupEvent where
  /-- A policy is installed. -/
  | restrict (groups : List Text) (source : RoleSource)
  /-- It is asked whether the user of a session is let in. -/
  | ask (s : Session)
  /-- The source of keys gives its document for a question, or fails. -/
  | keys (i : Nat) (keys : KeySource)
  | clock (now : Moment)

/-- A question: the policy it began with, the session, and the answer once there is one. -/
structure GroupQuestion where
  policy : GroupPolicy
  session : Session
  answer : Option (Except Failure Bool) := none

/-- A world and the questions that were asked in it. -/
structure GroupRun where
  world : World
  questions : List GroupQuestion := []

/-- The policy that is installed after an event. -/
def GroupEvent.installed (policy : GroupPolicy) : GroupEvent → GroupPolicy
  | restrict groups source => .restrictedTo groups source
  | _ => policy

namespace GroupRun

/-- A run that begins with a policy for a list of groups. -/
def start (w : World) (groups : List Text) (source : RoleSource) : GroupRun where
  world := { w with policy := .restrictedTo groups source }

/-- Answers a question with keys that have come. -/
def answered (p : Provider) (σ : GroupRun) (i : Nat) (question : GroupQuestion)
    (keys : KeySource) : GroupRun :=
  let performed :=
    ((p.withSource keys).validateUnder question.policy question.session).perform σ.world
  { world := performed.2
    questions := σ.questions.set i { question with answer := some performed.1 } }

/-- A question to a policy that does not restrict is answered at once. -/
def step (p : Provider) (σ : GroupRun) : GroupEvent → GroupRun
  | .restrict groups source =>
    { σ with world := ((Provider.setGroups groups source).perform σ.world).2 }
  | .ask s =>
    let question : GroupQuestion := ⟨σ.world.policy, s, none⟩
    let asked : GroupRun := { σ with questions := σ.questions ++ [question] }
    if σ.world.policy.restricts then asked
    else asked.answered p σ.questions.length question p.verifier.keys
  | .keys i keys =>
    match σ.questions[i]? with
    | none => σ
    | some question =>
      if question.answer.isNone then σ.answered p i question keys else σ
  | .clock now => { σ with world := { σ.world with now } }

def run (p : Provider) (σ : GroupRun) (es : List GroupEvent) : GroupRun :=
  es.foldl (step p) σ

def installed (policy : GroupPolicy) (es : List GroupEvent) : GroupPolicy :=
  es.foldl GroupEvent.installed policy

variable {p : Provider} {σ : GroupRun}

@[simp] theorem run_nil : σ.run p [] = σ := rfl

@[simp] theorem run_cons (e : GroupEvent) (es : List GroupEvent) :
    σ.run p (e :: es) = (σ.step p e).run p es := rfl

theorem run_append (es fs : List GroupEvent) : σ.run p (es ++ fs) = (σ.run p es).run p fs :=
  List.foldl_append

/-! ## What a run keeps -/

theorem answered_policy (i : Nat) (question : GroupQuestion) (keys : KeySource) :
    (σ.answered p i question keys).world.policy = σ.world.policy := by
  rw [answered, Provider.perform_validateUnder]
  rfl

/-- A policy is installed by the event that installs it and stays with any other. -/
theorem step_policy (e : GroupEvent) :
    (σ.step p e).world.policy = e.installed σ.world.policy := by
  cases e with
  | restrict groups source => rfl
  | ask s =>
    rw [step]
    split
    · rfl
    · exact answered_policy _ _ _
  | keys i keys =>
    rw [step]
    split
    · rfl
    · split
      · exact answered_policy _ _ _
      · rfl
  | clock now => rfl

theorem run_policy (es : List GroupEvent) :
    (σ.run p es).world.policy = installed σ.world.policy es := by
  induction es generalizing σ with
  | nil => rfl
  | cons e es ih =>
    rw [run_cons, ih, step_policy]
    rfl

/-- An answer is the ruling of the policy that the question began with. -/
theorem questions_answered {i : Nat} {question : GroupQuestion}
    (h : σ.questions[i]? = some question) (keys : KeySource) (j : Nat) :
    (σ.answered p i question keys).questions[j]? =
      if i = j then
        some { question with
          answer := some ((p.withSource keys).ruling question.policy σ.world.now.seconds
            question.session) }
      else σ.questions[j]? := by
  obtain ⟨hi, -⟩ := List.getElem?_eq_some_iff.mp h
  rw [answered, Provider.perform_validateUnder, List.getElem?_set, if_pos hi]
  rfl

/-- What becomes of a question that begins. -/
theorem step_ask (s : Session) :
    (σ.step p (.ask s)).questions[σ.questions.length]? =
      some ⟨σ.world.policy, s, if σ.world.policy.restricts then none else some (.ok true)⟩ := by
  have hasked : (σ.questions ++ [(⟨σ.world.policy, s, none⟩ : GroupQuestion)])[
      σ.questions.length]? = some ⟨σ.world.policy, s, none⟩ :=
    List.getElem?_concat_length
  rw [step]
  cases hrestricts : σ.world.policy.restricts with
  | true => exact hasked
  | false =>
    simp only [Bool.false_eq_true, if_false]
    rw [questions_answered hasked, if_pos rfl, Provider.ruling_of_not_restricts hrestricts]

/-- A question that waits is answered when its keys come. -/
theorem step_keys {i : Nat} {question : GroupQuestion} (h : σ.questions[i]? = some question)
    (hwaits : question.answer = none) (keys : KeySource) :
    (σ.step p (.keys i keys)).questions[i]? =
      some { question with
        answer := some ((p.withSource keys).ruling question.policy σ.world.now.seconds
          question.session) } := by
  simp only [step, h, hwaits, Option.isNone_none, if_true]
  rw [questions_answered h, if_pos rfl]

/-- A question stays as it is unless it waits and its keys come. -/
theorem step_keeps {i : Nat} {question : GroupQuestion} {e : GroupEvent}
    (h : σ.questions[i]? = some question)
    (hkeys : question.answer = none → ∀ keys, e ≠ .keys i keys) :
    (σ.step p e).questions[i]? = some question := by
  obtain ⟨hi, -⟩ := List.getElem?_eq_some_iff.mp h
  cases e with
  | restrict groups source => exact h
  | ask s =>
    have hasked : (σ.questions ++ [(⟨σ.world.policy, s, none⟩ : GroupQuestion)])[i]? =
        some question := (List.getElem?_append_left hi).trans h
    rw [step]
    cases σ.world.policy.restricts with
    | true => exact hasked
    | false =>
      -- what is answered at once is the question that was appended
      simp only [Bool.false_eq_true, if_false]
      rw [questions_answered List.getElem?_concat_length, if_neg (Nat.ne_of_gt hi)]
      exact hasked
  | keys j keys =>
    rw [step]
    cases hj : σ.questions[j]? with
    | none => exact h
    | some other =>
      simp only
      by_cases hwaits : other.answer.isNone = true
      · rw [if_pos hwaits, questions_answered hj]
        by_cases hij : j = i
        · subst hij
          cases h.symm.trans hj
          exact absurd rfl (hkeys (Option.isNone_iff_eq_none.mp hwaits) keys)
        · rw [if_neg hij]
          exact h
      · rw [if_neg hwaits]
        exact h
  | clock now => exact h

theorem run_keeps {i : Nat} {question : GroupQuestion} {es : List GroupEvent}
    (h : σ.questions[i]? = some question)
    (hkeys : question.answer = none → ∀ keys, GroupEvent.keys i keys ∉ es) :
    (σ.run p es).questions[i]? = some question := by
  induction es generalizing σ with
  | nil => exact h
  | cons e es ih =>
    refine ih (step_keeps h fun hwaits keys he ↦ ?_) fun hwaits keys hmem ↦ ?_
    · exact hkeys hwaits keys (he ▸ List.mem_cons_self)
    · exact hkeys hwaits keys (List.mem_cons_of_mem e hmem)

/-! ## Questions in a run -/

/-- A question keeps the policy it began with, and is answered by it. -/
theorem run_question {mid after : List GroupEvent} {s : Session} (keys : KeySource)
    (hmid : ∀ keys, GroupEvent.keys σ.questions.length keys ∉ mid) :
    ((σ.run p (.ask s :: mid)).run p
        (.keys σ.questions.length keys :: after)).questions[σ.questions.length]? =
      some ⟨σ.world.policy, s, some ((p.withSource keys).ruling σ.world.policy
        (σ.run p (.ask s :: mid)).world.now.seconds s)⟩ := by
  have hasked := @step_ask p σ s
  cases hrestricts : σ.world.policy.restricts with
  | false =>
    -- it is answered before any keys come
    rw [hrestricts] at hasked
    rw [← run_append, List.cons_append, run_cons, Provider.ruling_of_not_restricts hrestricts]
    exact run_keeps hasked fun h ↦ nomatch h
  | true =>
    rw [hrestricts] at hasked
    have hwaits := @run_keeps p _ _ _ mid hasked fun _ ↦ hmid
    rw [run_cons]
    exact run_keeps (step_keys hwaits rfl keys) fun h ↦ nomatch h

/-- A question whose keys come at once is the question of a provider. -/
theorem validateGroup_eq_run (p : Provider) (w : World) (s : Session) :
    run p ⟨w, []⟩ [.ask s, .keys 0 p.verifier.keys] =
      ⟨((p.validateGroup s).perform w).2,
        [⟨w.policy, s, some ((p.validateGroup s).perform w).1⟩]⟩ := by
  rw [Provider.perform_validateGroup, run_cons, step]
  cases w.policy.restricts with
  | true => rfl
  | false => rfl

/-! ## Policies in a run -/

/-- A policy that was installed has no group without a name. -/
theorem ne_empty_of_mem_installed {policy : GroupPolicy} {es : List GroupEvent}
    (h : ∀ group ∈ policy.groups, group ≠ "") :
    ∀ group ∈ (installed policy es).groups, group ≠ "" := by
  induction es generalizing policy with
  | nil => exact h
  | cons e es ih =>
    refine ih ?_
    cases e with
    | restrict groups source =>
      exact fun group hgroup ↦ (GroupPolicy.mem_restrictedTo_iff.mp hgroup).2
    | ask s => exact h
    | keys i keys => exact h
    | clock now => exact h

/-- So it has no group with a name only if it has none. -/
theorem installed_groups_eq_nil_iff {groups : List Text} {source : RoleSource}
    {es : List GroupEvent} :
    (installed (.restrictedTo groups source) es).groups = [] ↔
      ∀ group ∈ (installed (.restrictedTo groups source) es).groups, group = "" := by
  have hne := @ne_empty_of_mem_installed (.restrictedTo groups source) es fun group hgroup ↦
    (GroupPolicy.mem_restrictedTo_iff.mp hgroup).2
  rw [List.eq_nil_iff_forall_not_mem]
  exact forall_congr' fun group ↦
    ⟨fun hnot hmem ↦ absurd hmem hnot, fun hempty hmem ↦ hne group hmem (hempty hmem)⟩

/-- **Who is let in.** A question is answered by the policy that was installed when it began, with
the keys that come for it and by the clock of that moment, whatever was installed since. The answer
is yes exactly if the policy has no group with a name, or the identity token verifies and its claims
list one of the groups where the policy looks for it. So it is the answer of every policy with the
same groups about every user with the same roles. A policy that restricts lets in only those whose
session is valid, and lets them in with more groups as well. -/
theorem run_ruling (p : Provider) (w : World) (groups : List Text) (source : RoleSource)
    (before mid after : List GroupEvent) (s : Session) (keys : KeySource) :
    let begun := (start w groups source).run p before
    let i := begun.questions.length
    let policy := installed (.restrictedTo groups source) before
    let asked := begun.run p (.ask s :: mid)
    let keyed := p.withSource keys
    let now := asked.world.now.seconds
    let answer (policy : GroupPolicy) (s : Session) :=
      ((keyed.validateGroup s).perform { asked.world with policy }).1
    (∀ keys, GroupEvent.keys i keys ∉ mid) →
      asked.questions[i]? = some ⟨policy, s, if policy.restricts then none else some (.ok true)⟩ ∧
        (asked.run p (.keys i keys :: after)).questions[i]? =
          some ⟨policy, s, some (answer policy s)⟩ ∧
        (answer policy s = .ok true ↔
          (∀ group ∈ policy.groups, group = "") ∨
            ∃ role ∈ policy.groups, keyed.Holds now policy s role) ∧
        (∀ policy' s', (∀ group, group ∈ policy.groups ↔ group ∈ policy'.groups) →
          (∀ role, keyed.Holds now policy s role ↔ keyed.Holds now policy' s' role) →
          (answer policy s = .ok true ↔ answer policy' s' = .ok true)) ∧
        (policy.restricts = true → answer policy s = .ok true →
          (∀ policy', policy'.source = policy.source → policy.groups ⊆ policy'.groups →
            answer policy' s = .ok true) ∧
          ((keyed.validateSession s).perform asked.world).1 = .ok true) := by
  intro begun i policy asked keyed now answer hmid
  have hpolicy : begun.world.policy = policy := run_policy before
  have hanswer (policy : GroupPolicy) (s : Session) :
      answer policy s = keyed.ruling policy now s := Provider.validateGroup_eq_ruling _
  simp only [hanswer]
  refine ⟨?_, ?_, ?_, ?_, fun hrestricts hyes ↦ ⟨?_, ?_⟩⟩
  · have hasked := @step_ask p begun s
    rw [hpolicy] at hasked
    exact @run_keeps p _ _ _ mid hasked fun _ ↦ hmid
  · have hquestion := @run_question p begun mid after s keys hmid
    rw [hpolicy] at hquestion
    exact hquestion
  · exact Provider.ruling_eq_ok_true_iff.trans (or_congr_left installed_groups_eq_nil_iff)
  · exact fun policy' s' ↦ Provider.ruling_congr
  · exact fun policy' hsource hsub ↦ Provider.ruling_mono hrestricts hsource hsub hyes
  · exact Provider.validateSession_of_ruling hrestricts hyes

/-- A policy is replaced while a user whom it lets in waits. -/
theorem run_ruling_fullToken :
    (((start { now := sampleMoment } [] .realm).run sampleProvider
      [.restrict ["access-layer", ""] (.claim "aud"), .ask (sampleSession fullToken),
        .restrict ["other"] .realm]).run sampleProvider
          [.keys 0 (.document sampleKeys)]).questions[0]? =
      some ⟨.restrictedTo ["access-layer", ""] (.claim "aud"), sampleSession fullToken,
        some (.ok true)⟩ := by
  obtain ⟨-, hanswered, hiff, -⟩ := run_ruling sampleProvider { now := sampleMoment } [] .realm
    [.restrict ["access-layer", ""] (.claim "aud")] [.restrict ["other"] .realm] []
    (sampleSession fullToken) (.document sampleKeys) (by simp)
  have hyes := hiff.mpr (.inr ⟨"access-layer", by decide, fullClaims, check_fullToken,
    [.str "access-layer"], rfl, by decide⟩)
  rw [hyes] at hanswered
  exact hanswered

end GroupRun

end SessionGate

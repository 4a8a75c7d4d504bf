import CloudDiagram.Proofs.Registry.Numbering

/-!
# What happened to ids

A registry is asked for two things: to meet an id, or to make one up from a stem. The log
of some requests says in their order which id each of them was about. A registry knows the
ids of its log and those that it knew before, and no others.

An id that was made up was unknown at that moment, so it is none of the earlier ids of the
log, however they came there. From then on it is known, so it is not made up again.
-/

namespace CloudDiagram

/-- What may be asked of a registry. Whatever a session does with ids comes down to
these two. -/
inductive IdRequest where
  /-- Meet an id. -/
  | meet (id : String)
  /-- Make an id up from a stem. -/
  | make (stem : String)
deriving DecidableEq

/-- What happened to an id. An event of the second kind holds the id, which was not
part of the request. -/
inductive IdEvent where
  /-- The id was met. -/
  | met (id : String)
  /-- The id was made up from the stem. -/
  | made (stem id : String)
deriving DecidableEq

namespace IdEvent

/-- The id of an event. -/
def id : IdEvent → String
  | met id => id
  | made _ id => id

/-- The id of an event, if it was made up. -/
def made? : IdEvent → Option String
  | met _ => none
  | made _ id => some id

end IdEvent

namespace Registry

/-- Do what is asked. The id of a request is met, or an id is made up and
remembered. -/
def perform (registry : Registry) : IdRequest → Registry
  | .meet id => registry.learn id
  | .make stem => (registry.fresh stem).2

/-- Do what is asked, one thing after another. -/
def performAll (registry : Registry) (requests : List IdRequest) : Registry :=
  requests.foldl perform registry

/-- What happens when something is asked. It depends on the registry which id is
made up. -/
def event (registry : Registry) : IdRequest → IdEvent
  | .meet id => .met id
  | .make stem => .made stem (registry.fresh stem).1

/-- What happens when one thing after another is asked, in this order. -/
def log (registry : Registry) : List IdRequest → List IdEvent
  | [] => []
  | request :: rest => registry.event request :: (registry.perform request).log rest

/-- The count of numbers does not start over: where an id is made up, its stem can
be numbered. -/
def Unwrapped (registry : Registry) : List IdRequest → Prop
  | [] => True
  | .meet id :: rest => (registry.learn id).Unwrapped rest
  | .make stem :: rest => registry.CanNumber stem ∧ (registry.fresh stem).2.Unwrapped rest

/-- A known id need not be learned, since ids are remembered once. -/
theorem learn_of_knows {registry : Registry} {id : String} (known : registry.knows id = true) :
    registry.learn id = registry := by
  simp [learn, known]

/-- Known ids need not be learned, however many they are. -/
theorem learnAll_of_knows {registry : Registry} {ids : List String}
    (known : ∀ id ∈ ids, registry.knows id = true) : registry.learnAll ids = registry := by
  induction ids with
  | nil => rfl
  | cons id rest inductionHypothesis =>
    change (registry.learn id).learnAll rest = registry
    rw [learn_of_knows (known id (List.mem_cons_self ..))]
    exact inductionHypothesis fun other member => known other (List.mem_cons_of_mem id member)

/-- Learning ids is meeting one after another, so readings of texts are part of the
log. -/
theorem learnAll_eq_performAll (registry : Registry) (ids : List String) :
    registry.learnAll ids = registry.performAll (ids.map .meet) := by
  induction ids generalizing registry with
  | nil => rfl
  | cons id rest inductionHypothesis => exact inductionHypothesis (registry.learn id)

/-- An id that was made up is known, so it is not made up again. -/
theorem knows_fresh (registry : Registry) (stem : String) :
    (registry.fresh stem).2.knows (registry.fresh stem).1 = true := by
  have known := knows_learn registry (registry.fresh stem).1 (registry.fresh stem).1
  rw [beq_self_eq_true, Bool.true_or] at known
  exact known

/-- After a request the id of its event is known, and those that were known before.
Nothing is forgotten and nothing else is learned. -/
theorem knows_perform (registry : Registry) (request : IdRequest) (sought : String) :
    (registry.perform request).knows sought =
      (sought == (registry.event request).id || registry.knows sought) := by
  cases request with
  | meet id => exact knows_learn registry id sought
  | make stem => exact knows_learn registry (registry.fresh stem).1 sought

/-- After some requests the ids of their log are known, and those that were known
before. The log is thus a full account of what the registry has come to know. -/
theorem knows_performAll {registry : Registry} {requests : List IdRequest} {sought : String} :
    (registry.performAll requests).knows sought = true ↔
      (∃ event ∈ registry.log requests, event.id = sought) ∨ registry.knows sought = true := by
  induction requests generalizing registry with
  | nil => simp [performAll, log]
  | cons request rest inductionHypothesis =>
    change ((registry.perform request).performAll rest).knows sought = true ↔ _
    rw [inductionHypothesis, knows_perform, Bool.or_eq_true, beq_iff_eq, ← or_assoc]
    simp only [log, List.mem_cons, exists_eq_or_imp]
    exact or_congr_left (or_comm.trans (or_congr_left eq_comm))

/-- What is known stays known, whatever is asked. -/
theorem knows_performAll_of_knows {registry : Registry} {sought : String}
    (known : registry.knows sought = true) (requests : List IdRequest) :
    (registry.performAll requests).knows sought = true :=
  knows_performAll.mpr (.inr known)

/-- Requests are performed in parts, the second part from where the first one has
led. -/
theorem performAll_append (registry : Registry) (first second : List IdRequest) :
    registry.performAll (first ++ second) = (registry.performAll first).performAll second :=
  List.foldl_append

/-- The log of requests in parts: what happens in the second part depends on what
the first part has made known. -/
theorem log_append (registry : Registry) (first second : List IdRequest) :
    registry.log (first ++ second) =
      registry.log first ++ (registry.performAll first).log second := by
  induction first generalizing registry with
  | nil => rfl
  | cons request rest inductionHypothesis =>
    exact congrArg (_ :: ·) (inductionHypothesis (registry.perform request))

/-- The count does not start over if it does not in either part, where the second
part starts from the registry after the first. -/
theorem unwrapped_append {registry : Registry} {first second : List IdRequest} :
    registry.Unwrapped (first ++ second) ↔
      registry.Unwrapped first ∧ (registry.performAll first).Unwrapped second := by
  induction first generalizing registry with
  | nil => exact (iff_of_eq (true_and _)).symm
  | cons request rest inductionHypothesis =>
    cases request with
    | meet id => exact inductionHypothesis
    | make stem => exact (and_congr_right fun _ => inductionHypothesis).trans and_assoc.symm

/-- An id that was made up has a number behind its stem. It was unknown at first,
and none of the earlier events was about it. The induction is over the requests:
whatever happens before makes its id known, and an id that is made up was not known.
-/
theorem made_is_new {registry : Registry} {requests : List IdRequest} {stem id : String}
    {before after : List IdEvent} (unwrapped : registry.Unwrapped requests)
    (split : registry.log requests = before ++ .made stem id :: after) :
    (∃ number, id = numberedId stem number) ∧ registry.knows id = false ∧
      ∀ event ∈ before, event.id ≠ id := by
  induction requests generalizing registry before with
  | nil => cases before <;> cases split
  | cons request rest inductionHypothesis =>
    cases before with
    | nil =>
      obtain ⟨happened, -⟩ := List.cons.inj split
      cases request with
      | meet other => cases happened
      | make stem' =>
        obtain ⟨rfl, rfl⟩ := IdEvent.made.inj happened
        obtain ⟨number, -, -, unknown, -, fresh⟩ := fresh_eq unwrapped.1
        rw [fresh]
        exact ⟨⟨number, rfl⟩, unknown, fun _ impossible => nomatch impossible⟩
    | cons first before =>
      obtain ⟨rfl, behind⟩ := List.cons.inj split
      have later : (registry.perform request).Unwrapped rest := by
        cases request with
        | meet other => exact unwrapped
        | make stem' => exact unwrapped.2
      obtain ⟨numbered, unknown, apart⟩ := inductionHypothesis later behind
      rw [knows_perform, Bool.or_eq_false_iff, beq_eq_false_iff_ne] at unknown
      refine ⟨numbered, unknown.2, ?_⟩
      intro event member
      rcases List.mem_cons.mp member with rfl | member
      · exact unknown.1.symm
      · exact apart event member

/-- No id is made up twice. Once made up it is known, and what is known is not made
up. -/
theorem nodup_made {registry : Registry} {requests : List IdRequest}
    (unwrapped : registry.Unwrapped requests) :
    ((registry.log requests).filterMap IdEvent.made?).Nodup := by
  induction requests generalizing registry with
  | nil => exact List.nodup_nil
  | cons request rest inductionHypothesis =>
    cases request with
    | meet id => exact inductionHypothesis unwrapped
    | make stem =>
      refine List.nodup_cons.mpr ⟨?_, inductionHypothesis unwrapped.2⟩
      intro again
      obtain ⟨event, member, made⟩ := List.mem_filterMap.mp again
      cases event with
      | met id => cases made
      | made stem' id =>
        obtain rfl : id = (registry.fresh stem).1 := Option.some.inj made
        obtain ⟨before, after, split⟩ := List.append_of_mem member
        have unknown : (registry.fresh stem).2.knows (registry.fresh stem).1 = false :=
          (made_is_new unwrapped.2 split).2.1
        rw [knows_fresh] at unknown
        cases unknown

end Registry

end CloudDiagram

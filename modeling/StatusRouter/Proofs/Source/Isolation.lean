import StatusRouter.Proofs.Source.Session

/-!
# Replacements stay out of a pass

While a pass records its results, the set in effect may be replaced between any two calls of its
manager.  The manager works on with the set that it loaded when the pass began, so all calls leave and
answer what they would without the replacements, and these take effect when the next pass begins.

It does not matter through which handle a set is replaced, since a handle and its clones show the same
shared set (`SharedHandles.returned_of_handles`).  So the handles are not told apart in a pass.

A pass alone (`Pass.alone`) has its calls and a fixed set, and knows of no replacements.
`work_runPasses` says that passes among replacements do what they do alone, one after another, and
`returned_runPasses` that the replacements hand back what they displace.
-/

namespace StatusRouter

/-! ## Handles -/

/-- What is done with the handles to a shared set. -/
inductive HandleAction where
  | cloning (handle : Nat)
  | replacing (handle : Nat) (set : ConditionSet)
  deriving DecidableEq

def HandleAction.replacement? : HandleAction → Option ConditionSet
  | .cloning _ => none
  | .replacing _ set => some set

namespace SharedHandles

/-- The handles after actions, and the sets that the replacements return, unless an action is of a
handle that is not there. -/
def run? (shared : SharedHandles) : List HandleAction → Option (SharedHandles × List ConditionSet)
  | [] => some (shared, [])
  | .cloning handle :: rest => do (← shared.clone? handle).run? rest
  | .replacing handle set :: rest => do
    let (changed, previous, _) ← shared.replace? handle set
    let (last, returned) ← changed.run? rest
    return (last, previous :: returned)

/-- All handles lead to one cell, which holds a shared set. -/
def Shows (shared : SharedHandles) (current : SharedConditionSet) : Prop :=
  ∃ cell, shared.cells[cell]? = some current ∧ ∀ place ∈ shared.handles, place = cell

variable {shared after : SharedHandles} {current : SharedConditionSet} {handle : Nat}

theorem Shows.find? (h : shared.Shows current) (hhandle : handle < shared.handles.length) :
    shared.find? handle = some current := by
  obtain ⟨cell, hcell, hplaces⟩ := h
  obtain rfl : shared.handles[handle] = cell := hplaces _ (List.getElem_mem hhandle)
  simp [SharedHandles.find?, hhandle, hcell]

theorem Shows.clone? (h : shared.Shows current) (hclone : shared.clone? handle = some after) :
    after.Shows current := by
  obtain ⟨cell, hcell, hplaces⟩ := h
  simp only [SharedHandles.clone?, Option.bind_eq_bind, Option.bind_eq_some_iff, Option.pure_def,
    Option.some.injEq] at hclone
  obtain ⟨place, hplace, rfl⟩ := hclone
  refine ⟨cell, hcell, List.forall_mem_append.mpr ⟨hplaces, ?_⟩⟩
  simpa using hplaces place (List.mem_of_getElem? hplace)

theorem Shows.replace? {set previous : ConditionSet} {event : LogEvent} (h : shared.Shows current)
    (hreplace : shared.replace? handle set = some (after, previous, event)) :
    after.Shows (current.replace set).1 ∧ previous = current.load := by
  obtain ⟨cell, hcell, hplaces⟩ := h
  simp only [SharedHandles.replace?, Option.bind_eq_bind, Option.bind_eq_some_iff, Option.pure_def,
    Option.some.injEq, Prod.mk.injEq] at hreplace
  obtain ⟨place, hplace, found, hfound, rfl, rfl, -⟩ := hreplace
  obtain rfl : place = cell := hplaces place (List.mem_of_getElem? hplace)
  obtain rfl : current = found := Option.some.inj (hcell.symm.trans hfound)
  have hlt : place < shared.cells.length := (List.getElem?_eq_some_iff.mp hcell).1
  exact ⟨⟨place, List.getElem?_set_self hlt, hplaces⟩, rfl⟩

theorem Shows.run {actions : List HandleAction} {returned : List ConditionSet}
    (h : shared.Shows current) (hrun : shared.run? actions = some (after, returned)) :
    ∃ last : SharedConditionSet,
      returned ++ [last.load] = current.load :: actions.filterMap HandleAction.replacement? ∧
        after.Shows last := by
  induction actions generalizing shared current returned with
  | nil =>
      obtain ⟨rfl, rfl⟩ : shared = after ∧ [] = returned := by simpa [run?] using hrun
      exact ⟨current, rfl, h⟩
  | cons action rest ih =>
      cases action with
      | cloning handle =>
          simp only [run?, Option.bind_eq_bind, Option.bind_eq_some_iff] at hrun
          obtain ⟨cloned, hclone, hrest⟩ := hrun
          exact ih (h.clone? hclone) hrest
      | replacing handle set =>
          simp only [run?, Option.bind_eq_bind, Option.bind_eq_some_iff, Option.pure_def,
            Option.some.injEq, Prod.mk.injEq] at hrun
          obtain ⟨⟨changed, previous, event⟩, hreplace, ⟨last, later⟩, hrest, rfl, rfl⟩ := hrun
          obtain ⟨hshows, rfl⟩ := h.replace? hreplace
          obtain ⟨shown, hreturned, hlast⟩ := ih hshows hrest
          exact ⟨shown, congrArg (current.load :: ·) hreturned, hlast⟩

/-- Whichever handles to a shared set are cloned, and through whichever it is replaced, the sets that the
replacements return, and then the set that is loaded through any handle, are the first set and then all
sets that were put into effect, in order. -/
theorem returned_of_handles (set : ConditionSet) {actions : List HandleAction}
    {returned : List ConditionSet} (hrun : (of set).run? actions = some (after, returned)) :
    ∃ last : SharedConditionSet,
      returned ++ [last.load] = set :: actions.filterMap HandleAction.replacement? ∧
        ∀ handle < after.handles.length, after.find? handle = some last := by
  have hfirst : (of set).Shows ⟨set⟩ := ⟨0, rfl, fun _ hplace => List.mem_singleton.mp hplace⟩
  obtain ⟨last, hreturned, hshows⟩ := hfirst.run hrun
  exact ⟨last, hreturned, fun _ => hshows.find?⟩

end SharedHandles

/-! ## Calls and their results -/

/-- What a manager can be asked about the status. -/
inductive SourceQuestion where
  | condition (type : ConditionType)
  | topLevel
  | ready
  deriving DecidableEq

/-- The answer to a question. -/
inductive SourceAnswer where
  | condition (condition? : Option Condition)
  | ready (isReady : Bool)
  deriving DecidableEq

/-- A call of a manager. -/
inductive SourceRequest where
  | recording (call : SourceCall)
  | asking (question : SourceQuestion)
  deriving DecidableEq

/-- The status after a call, and what the call returned. -/
structure SourceReply where
  status : KafkaSourceStatus
  answer? : Option SourceAnswer
  deriving DecidableEq

namespace SourceManager

/-- Answers a question about the status. -/
def answer (manager : SourceManager) (status : KafkaSourceStatus) : SourceQuestion → SourceAnswer
  | .condition type => .condition (condition? type status)
  | .topLevel => .condition (manager.topLevel? status)
  | .ready => .ready (manager.isReady status)

/-- Carries out a call. -/
def reply (manager : SourceManager) (status : KafkaSourceStatus) : SourceRequest → SourceReply
  | .recording call => ⟨manager.perform status call, none⟩
  | .asking question => ⟨status, some (manager.answer status question)⟩

end SourceManager

/-! ## Passes -/

/-- What happens while a pass is under way. -/
inductive PassEvent where
  | requesting (request : SourceRequest)
  | replacing (set : ConditionSet)
  deriving DecidableEq

def PassEvent.request? : PassEvent → Option SourceRequest
  | .requesting request => some request
  | .replacing _ => none

def PassEvent.replacement? : PassEvent → Option ConditionSet
  | .requesting _ => none
  | .replacing set => some set

/-- A pass with all that happens until the next one begins. -/
structure Pass where
  now : Instant
  events : List PassEvent
  deriving DecidableEq

def Pass.requests (pass : Pass) : List SourceRequest := pass.events.filterMap PassEvent.request?

def Pass.replacements (pass : Pass) : List ConditionSet :=
  pass.events.filterMap PassEvent.replacement?

/-- What the manager of a pass has done so far. -/
structure PassWork where
  manager : SourceManager
  status : KafkaSourceStatus
  replies : List SourceReply
  deriving DecidableEq

/-- The work after one more call. -/
def PassWork.handle (work : PassWork) (request : SourceRequest) : PassWork :=
  let reply := work.manager.reply work.status request
  { work with status := reply.status, replies := work.replies ++ [reply] }

/-- A pass on its own: its calls under a fixed set. -/
def Pass.alone (pass : Pass) (set : ConditionSet) (availableByDefault : Bool)
    (status : KafkaSourceStatus) : PassWork :=
  pass.requests.foldl PassWork.handle
    ⟨SourceConditions.manage ⟨⟨set⟩, availableByDefault⟩ pass.now, status, []⟩

/-- A session during a pass, the results of the calls, and the sets that were returned by the
replacements. -/
structure PassLog where
  session : SourceSession
  replies : List SourceReply
  returned : List ConditionSet
  deriving DecidableEq

namespace PassLog

/-- What happens next during the pass. -/
def next (log : PassLog) : PassEvent → PassLog
  | .requesting request =>
    let reply := log.session.manager.reply log.session.status request
    { log with
      session := { log.session with status := reply.status }
      replies := log.replies ++ [reply] }
  | .replacing set =>
    { log with
      session := log.session.replaceSet set
      returned := log.returned ++ [(log.session.conditions.shared.replace set).2.1] }

/-- The set that is in effect. -/
def inEffect (log : PassLog) : ConditionSet := log.session.conditions.shared.load

/-- What the manager has done. -/
def work (log : PassLog) : PassWork := ⟨log.session.manager, log.session.status, log.replies⟩

end PassLog

/-- A pass among replacements. -/
def Pass.run (pass : Pass) (conditions : SourceConditions) (status : KafkaSourceStatus) : PassLog :=
  pass.events.foldl PassLog.next ⟨.start conditions pass.now status, [], []⟩

/-- Passes among replacements, one after another. -/
def runPasses (conditions : SourceConditions) (status : KafkaSourceStatus) : List Pass → List PassLog
  | [] => []
  | pass :: rest =>
    let log := pass.run conditions status
    log :: runPasses log.session.conditions log.session.status rest

/-- The set in effect after passes: the last one that was put into effect, or else the first one. -/
def lastSet (initial : ConditionSet) (passes : List Pass) : ConditionSet :=
  (passes.flatMap Pass.replacements).getLast?.getD initial

/-- Passes on their own, one after another, each with the set in effect after the earlier ones. -/
def alonePasses (initial : ConditionSet) (availableByDefault : Bool) (earlier : List Pass)
    (status : KafkaSourceStatus) : List Pass → List PassWork
  | [] => []
  | pass :: rest =>
    let work := pass.alone (lastSet initial earlier) availableByDefault status
    work :: alonePasses initial availableByDefault (earlier ++ [pass]) work.status rest

/-! ## What happens during a pass -/

namespace PassLog

variable (log : PassLog)

theorem work_next (event : PassEvent) :
    (log.next event).work = event.request?.toList.foldl PassWork.handle log.work := by
  cases event with
  | requesting request => rfl
  | replacing set => rfl

theorem work_foldl_next (events : List PassEvent) :
    (events.foldl next log).work =
      (events.filterMap PassEvent.request?).foldl PassWork.handle log.work := by
  induction events generalizing log with
  | nil => rfl
  | cons event events ih =>
      rw [List.foldl_cons, ih, work_next, ← List.foldl_append]
      cases event with
      | requesting request => rfl
      | replacing set => rfl

theorem returned_next (event : PassEvent) :
    (log.next event).returned ++ [(log.next event).inEffect] =
      log.returned ++ log.inEffect :: event.replacement?.toList := by
  cases event with
  | requesting request => rfl
  | replacing set => exact List.append_assoc _ _ _

/-- The sets that were returned, and then the one in effect, are all that have been in effect. -/
theorem returned_foldl_next (events : List PassEvent) :
    (events.foldl next log).returned ++ [(events.foldl next log).inEffect] =
      log.returned ++ log.inEffect :: events.filterMap PassEvent.replacement? := by
  induction events using List.reverseRecOn with
  | nil => rfl
  | append_singleton events event ih =>
      have hlast : [event].filterMap PassEvent.replacement? = event.replacement?.toList := by
        cases event with
        | requesting request => rfl
        | replacing set => rfl
      rw [List.foldl_append, List.foldl_cons, List.foldl_nil, returned_next, List.append_cons, ih,
        List.filterMap_append, hlast, List.append_assoc, List.cons_append]

theorem availableByDefault_foldl_next (events : List PassEvent) :
    (events.foldl next log).session.conditions.availableByDefault =
      log.session.conditions.availableByDefault := by
  induction events using List.reverseRecOn with
  | nil => rfl
  | append_singleton events event ih =>
      rw [List.foldl_append, ← ih]
      cases event with
      | requesting request => rfl
      | replacing set => rfl

end PassLog

namespace Pass

variable (pass : Pass) (conditions : SourceConditions) (status : KafkaSourceStatus)

theorem work_run : (pass.run conditions status).work =
    pass.alone conditions.shared.load conditions.availableByDefault status :=
  PassLog.work_foldl_next _ pass.events

theorem returned_run :
    (pass.run conditions status).returned ++ [(pass.run conditions status).inEffect] =
      conditions.shared.load :: pass.replacements :=
  PassLog.returned_foldl_next _ pass.events

theorem availableByDefault_run :
    (pass.run conditions status).session.conditions.availableByDefault =
      conditions.availableByDefault :=
  PassLog.availableByDefault_foldl_next _ pass.events

theorem inEffect_run : (pass.run conditions status).inEffect =
    pass.replacements.getLast?.getD conditions.shared.load := by
  have hlast := congrArg List.getLast? (pass.returned_run conditions status)
  rw [List.getLast?_concat, List.getLast?_cons] at hlast
  exact Option.some.inj hlast

end Pass

/-! ## Passes one after another -/

theorem lastSet_append_singleton (initial : ConditionSet) (passes : List Pass) (pass : Pass) :
    lastSet initial (passes ++ [pass]) =
      pass.replacements.getLast?.getD (lastSet initial passes) := by
  rw [lastSet, List.flatMap_append, List.flatMap_singleton, List.getLast?_append, lastSet]
  cases pass.replacements.getLast? <;> rfl

/-- Each pass does what it does alone with the set that was in effect when it began. -/
theorem work_runPasses {initial : ConditionSet} {earlier : List Pass} {conditions : SourceConditions}
    (hset : conditions.shared.load = lastSet initial earlier) (status : KafkaSourceStatus)
    (passes : List Pass) :
    (runPasses conditions status passes).map PassLog.work =
      alonePasses initial conditions.availableByDefault earlier status passes := by
  induction passes generalizing earlier conditions status with
  | nil => rfl
  | cons pass rest ih =>
      have hwork := pass.work_run conditions status
      have hstatus : (pass.run conditions status).session.status =
          (pass.alone conditions.shared.load conditions.availableByDefault status).status :=
        congrArg PassWork.status hwork
      have hafter : (pass.run conditions status).inEffect = lastSet initial (earlier ++ [pass]) := by
        rw [pass.inEffect_run, lastSet_append_singleton, hset]
      rw [runPasses, List.map_cons, ih hafter, alonePasses, pass.availableByDefault_run, hstatus, hwork,
        hset]

/-- The conditions that passes leave. -/
def conditionsAfter (conditions : SourceConditions) (logs : List PassLog) : SourceConditions :=
  logs.foldl (fun _ log => log.session.conditions) conditions

theorem returned_runPasses (conditions : SourceConditions) (status : KafkaSourceStatus)
    (passes : List Pass) :
    (runPasses conditions status passes).flatMap PassLog.returned ++
        [(conditionsAfter conditions (runPasses conditions status passes)).shared.load] =
      conditions.shared.load :: passes.flatMap Pass.replacements := by
  induction passes generalizing conditions status with
  | nil => rfl
  | cons pass rest ih =>
      let log := pass.run conditions status
      let logs := runPasses log.session.conditions log.session.status rest
      have hpass : log.returned ++ [log.inEffect] = conditions.shared.load :: pass.replacements :=
        pass.returned_run conditions status
      calc log.returned ++ logs.flatMap PassLog.returned ++
            [(conditionsAfter log.session.conditions logs).shared.load]
          = log.returned ++ log.inEffect :: rest.flatMap Pass.replacements := by
            rw [List.append_assoc, ih]
            rfl
        _ = conditions.shared.load :: (pass :: rest).flatMap Pass.replacements := by
            rw [List.append_cons, hpass, List.cons_append, List.flatMap_cons]

/-- Passes on the status of a source make their calls, and between the calls the set in effect is
replaced, through whatever handles.  Each pass is of the same manager, gets the same answers and leaves
the same status after every call as on its own, with a fixed set and without the replacements; the set
is the last one that was put into effect before the pass began, or else the first one.  So a manager
has the set that it loaded to the end of its pass.  The sets that the replacements return, and then the
one that is loaded in the end, are the first set and then all sets that were put into effect, in
order. -/
theorem work_eq_alone_of_runPasses (conditions : SourceConditions) (status : KafkaSourceStatus)
    (passes : List Pass) :
    let initial := conditions.shared.load
    let logs := runPasses conditions status passes
    logs.map PassLog.work = alonePasses initial conditions.availableByDefault [] status passes ∧
      logs.flatMap PassLog.returned ++ [(conditionsAfter conditions logs).shared.load] =
        initial :: passes.flatMap Pass.replacements :=
  ⟨work_runPasses rfl status passes, returned_runPasses conditions status passes⟩

/-- A set that needs less is put into effect in the middle of a pass, and counts in the next one. -/
example :
    let small : ConditionSet := .living [SourceCondition.deployed]
    let deployed : PassEvent := .requesting (.recording (.outcome SourceCondition.deployed .met))
    let ready : PassEvent := .requesting (.asking .ready)
    let first : Pass :=
      ⟨ConditionManager.exampleTime 1, [deployed, .replacing small, deployed, ready]⟩
    let second : Pass := ⟨ConditionManager.exampleTime 2, [deployed, ready]⟩
    let logs := runPasses .default .empty [first, second]
    logs.map (fun log => log.replies.filterMap SourceReply.answer?) =
        [[.ready false], [.ready true]] ∧
      logs.flatMap PassLog.returned = [SourceCondition.set] := by
  decide +kernel

end StatusRouter

import Mathlib.Data.Prod.Lex
import Steward.Domain.Sink
import Steward.Lib.Graph

/-!
# Graph amendments

`internal/domain/amendment.go`: an operator's request to change the graph of a run, the candidate
task list it leads to, and the rules every task list obeys: identities and names are unique, the
execution limits are sound, and the dependencies form an acyclic graph over the listed names.
-/

namespace Steward

open Except List

inductive GraphOperation
  | unknown
  | taskAdd
  | taskSet
  | edgeAdd
  | edgeRemove
  | clone
  | rerun
deriving DecidableEq

structure GraphAmendment where
  (group id runID : String := "")
  expectedRevision : Int := 0
  reason : String := ""
  operation : GraphOperation := .unknown
  taskID : String := ""
  task : Option Task := none
  source : String := ""
  (model provider : Option String := none)
  options : Option (List (String × String)) := none
  timeout : Option Duration := none
  prompt : String := ""
  verification : Option (List String) := none
  useCommit : Bool := false
deriving DecidableEq

structure GraphDefinition where
  runID : String := ""
  (revision parent : Int := 0)
  (actor reason requestID digest : String := "")
  createdAt : Time := 0
  tasks : List Task := []
deriving DecidableEq

def GraphDefinition.key (g : GraphDefinition) : String ×ₗ Int := toLex (g.runID, g.revision)

structure GraphAmendmentResult where
  run : WorkflowRun := {}
  graph : GraphDefinition := {}
  replay : Bool := false
deriving DecidableEq

structure GraphRequest where
  (id actor : String := "")
  request : GraphAmendment := {}
  result : GraphAmendmentResult := {}
deriving DecidableEq

/-! ## The request -/

/-- The pattern `^[A-Za-z0-9][A-Za-z0-9_.-]{0,127}$`. -/
def graphName (s : String) : Bool :=
  match s.toList with
  | [] => false
  | c :: rest =>
    c.isAlphanum && rest.all (fun c => c.isAlphanum || c == '_' || c == '.' || c == '-') &&
      rest.length ≤ 127

/-- The pattern `^[a-z0-9]+(-[a-z0-9]+)*$`: hyphens only between letters and digits. -/
def campaignGroupID (s : String) : Bool :=
  let sound (c : Char) : Bool := c.isLower || c.isDigit
  let rec go (inside : Bool) : List Char → Bool
    | [] => inside
    | c :: rest => if sound c then go true rest else c == '-' && inside && go false rest
  go false s.toList

def validateCampaignGroup (group : String) : Except Err Unit :=
  refuseWhen (group ≠ "" ∧ (64 < group.utf8ByteSize ∨ !campaignGroupID group))
    { text := "group must be at most 64 bytes of lower-case letters, digits and single hyphens" }

def validateAmendmentVerification (commands : List String) : Except Err Unit := do
  refuseWhen (commands = []) { text := "task amendment requires at least one verification command" }
  refuseWhen (commands.any fun c => Text.blank c || c.toList.contains '\x00')
    { text := "task amendment has invalid verification command" }

variable (r : GraphAmendment)

def GraphAmendment.edits : Bool :=
  r.model.isSome || r.provider.isSome || r.options.isSome || r.timeout.isSome || r.verification.isSome

def maxAmendmentPrompt : Nat := 256 * 1024

def validateAmendmentFields : Except Err Unit :=
  match r.operation with
  | .taskAdd => do
    refuseWhen (r.task.any Task.reviewRequirements)
      { text := "review_requirements must be declared through configured campaign submission; " ++
          "task-add cannot supply compiled review authority" }
    refuseWhen (!r.task.any (fun t => graphName t.name && t.name ≠ sinkTaskName) ∨ r.prompt = "" ∨
        maxAmendmentPrompt < r.prompt.utf8ByteSize)
      { text := "task add requires a named task and prompt of at most 256 KiB" }
    refuseWhen (r.taskID ≠ "" ∨ r.source ≠ "" ∨ r.edits) { text := "mixed task add fields" }
  | .taskSet =>
    refuseWhen
      (r.taskID = "" ∨ r.task ≠ none ∨ r.source ≠ "" ∨ maxAmendmentPrompt < r.prompt.utf8ByteSize ∨
        (r.prompt = "" ∧ !r.edits))
      { text := "task set requires target and model/provider/options/timeout/verification" }
  | .edgeAdd | .edgeRemove =>
    refuseWhen (r.taskID = "" ∨ r.source = "" ∨ r.task ≠ none ∨ r.prompt ≠ "" ∨ r.edits)
      { text := "edge amendment requires source and target" }
  | .clone =>
    refuseWhen (r.taskID ≠ "" ∨ r.task ≠ none ∨ r.source ≠ "" ∨ r.prompt ≠ "" ∨ r.edits)
      { text := "mixed clone fields" }
  | .rerun => do
    refuseWhen (r.taskID = "" ∨ maxAmendmentPrompt < r.prompt.utf8ByteSize)
      { text := "rerun requires the source task to start from and a prompt of at most 256 KiB" }
    refuseWhen (r.task ≠ none ∨ r.source ≠ "" ∨ r.edits) { text := "mixed rerun fields" }
  | .unknown => .error { text := "unknown graph amendment operation" }

def validateGraphAmendment : Except Err Unit := do
  validateCampaignGroup r.group
  refuseWhen (r.group ≠ "" ∧ r.operation ≠ .rerun) { text := "group is only valid for rerun" }
  refuseWhen (r.useCommit ∧ r.operation ≠ .rerun) { text := "useCommit is only valid for rerun" }
  refuseWhen (!graphName r.id ∨ r.runID = "" ∨ r.expectedRevision < 1 ∨ Text.blank r.reason ∨
      4096 < r.reason.utf8ByteSize)
    { text := "amendment requires bounded request ID, run, expected graph revision and reason" }
  validateAmendmentFields r
  match r.operation, r.task, r.verification with
  | .taskAdd, some t, _ => validateAmendmentVerification t.verification
  | .taskAdd, none, _ => .ok ()
  | _, _, some commands => validateAmendmentVerification commands
  | _, _, none => .ok ()

/-! ## References to other runs -/

variable (value : String) (tasks : List Task)

def containsControl : Bool :=
  value.toList.any fun c => c.toNat < 0x20 || c.toNat == 0x7f

def validateStorageComponent : Except Err Unit := do
  refuseWhen (value = "") { text := "is empty" }
  refuseWhen (value = "." ∨ value = "..") { text := "must not be \".\" or \"..\"" }
  refuseWhen (value.toList.any fun c => c == '/' || c == '\\')
    { text := "must not contain a path separator" }
  refuseWhen (containsControl value) { text := "must not contain control characters" }
  refuseWhen (value.toList.head? = some '-') { text := "must not start with -" }
  refuseWhen (255 < value.utf8ByteSize) { text := "must be at most 255 bytes" }

/-- A reference is written `<run>/<task>`. -/
def parseNodeRef : Except Err NodeRef :=
  let run := String.ofList (value.toList.takeWhile (· ≠ '/'))
  let rest := value.toList.dropWhile (· ≠ '/')
  let task := String.ofList rest.tail
  if rest = [] ∨ run = "" ∨ task = "" ∨ '/' ∈ rest.tail then
    .error { text := "node must be <run>/<task>" }
  else
    match validateStorageComponent run with
    | .error e => .error { e with text := "node " ++ quote value ++ ": run " ++ e.text }
    | .ok () =>
      if containsControl task then
        .error { text := "node " ++ quote value ++ ": task must not contain control characters" }
      else .ok { runID := run, taskID := task }

/-! ## The task list -/

def maxTaskTimeout : Duration := 7 * 24 * 3600 * 1000000000

def validateGraphTask (run : WorkflowRun) (earlier : List Task) (t : Task) : Except Err Unit := do
  refuseWhen
    (t.id = "" ∨ t.workflowID ≠ run.workflowID ∨ !graphName t.name ∨ t.name = sinkTaskName ∨
      t.id ∈ earlier.map Task.id)
    { text := "invalid or duplicate task identity" }
  refuseWhen (t.name ∈ earlier.map Task.name) { text := "duplicate task name" }
  refuseWhen
    (t.promptArtifactID = "" ∨ t.maxTurns < 1 ∨ t.timeout < 0 ∨ maxTaskTimeout < t.timeout ∨
      (t.class ≠ .required ∧ t.class ≠ .surplus) ∨ t.routes = [])
    { text := "task " ++ t.name ++ " has invalid execution limits, class, prompt or routes" }
  refuseWhen (t.routes.any fun r => Text.blank r.model || Text.blank r.providerInstanceID)
    { text := "route requires provider and model" }

def validateGraphTaskFields (run : WorkflowRun) : List Task → List Task → Except Err Unit
  | _, [] => .ok ()
  | earlier, t :: rest => do
    validateGraphTask run earlier t
    validateGraphTaskFields run (earlier ++ [t]) rest

def taskNamed (name : String) : Option Task := tasks.find? fun t => t.name = name

def Task.provides (t : Task) (output : String) : Bool :=
  (t.gate && (output == "gate" || output == "gate/log.txt")) || t.outputs.contains output

/-- The inputs of a task come along its edges; carried ones have no edge, since their producer
belongs to another run. -/
def validateTaskInputs (t : Task) : Except Err Unit := do
  t.carriedInputs.forM fun carried => do
    refuseWhen
      (carried.producer = "" ∨ carried.producerTaskID = "" ∨ carried.name = "" ∨
      carried.artifactID = "")
      { text := "carried input requires a producer, a name and an artifact" }
    refuseWhen ((taskNamed tasks carried.producer).isSome)
      { text := "carried input producer is a task of this graph" }
  t.dependencyInputs.forM fun input => do
    refuseWhen (input.1 ∉ t.needs) { text := "artifact input requires dependency edge" }
    refuseWhen (input.2.any fun output => !(taskNamed tasks input.1).any (·.provides output))
      { text := "required dependency output is undeclared" }

def visitNeeds (visit : List String → String → Except Err (List String)) :
    List String → List String → List String → Except Err (List String)
  | _, [], done => .ok done
  | seen, need :: needs, done =>
    if need ∈ seen then .error { text := "duplicate dependency" }
    else do
      let done ← visit done need
      visitNeeds visit (need :: seen) needs done

/-- The depth-first walk below a name; `visiting` is the path to it. A path has no more names than
there are tasks, so the walk gets that many steps and one more. -/
def visitGraphTask (tasks : List Task) :
    Nat → List String → List String → String → Except Err (List String)
  | 0, _, _, _ => .error { text := "local dependency cycle" }
  | fuel + 1, visiting, done, name =>
    if name ∈ visiting then .error { text := "local dependency cycle" }
    else if name ∈ done then .ok done
    else
      match taskNamed tasks name with
      | none => .error { text := "missing dependency " ++ name }
      | some t => do
        let done ← visitNeeds (visitGraphTask tasks fuel (name :: visiting)) [] t.needs done
        validateTaskInputs tasks t
        return name :: done

def visitGraphTasks (names : List String) (done : List String) : Except Err (List String) :=
  names.foldlM (visitGraphTask tasks (tasks.length + 1) []) done

def validateGraphTasks (run : WorkflowRun) (tasks : List Task) : Except Err Unit := do
  refuseWhen (1024 < tasks.length) { text := "graph exceeds 1024 tasks" }
  validateGraphTaskFields run [] tasks
  let _ ← visitGraphTasks tasks (tasks.map Task.name) []
  return ()

/-! ## What validation says -/

open Relation (TransGen)

variable {tasks : List Task} {t : Task} {done done' : List String} {name : String}
  {run : WorkflowRun}

theorem mem_names_of_taskNamed (h : taskNamed tasks name = some t) : name ∈ tasks.map Task.name :=
  mem_map.2 ⟨t, mem_of_find?_eq_some h, by simpa using find?_some h⟩

def NameNeeds (tasks : List Task) (name need : String) : Prop :=
  ∃ t, taskNamed tasks name = some t ∧ need ∈ t.needs

theorem validateGraphTaskFields_nodup {earlier rest : List Task}
    (h : validateGraphTaskFields run earlier rest = .ok ()) (hids : (earlier.map Task.id).Nodup)
    (hnames : (earlier.map Task.name).Nodup) :
    ((earlier ++ rest).map Task.id).Nodup ∧ ((earlier ++ rest).map Task.name).Nodup := by
  induction rest generalizing earlier with
  | nil =>
    rw [append_nil]
    exact ⟨hids, hnames⟩
  | cons t rest ih =>
    obtain ⟨_, hfirst, hrest⟩ := of_bind h
    obtain ⟨hid, hfirst⟩ := of_guard hfirst
    obtain ⟨hname, -⟩ := of_guard hfirst
    simp only [not_or] at hid
    rw [append_cons]
    refine ih hrest ?_ ?_
    · rw [map_append]
      exact Nodup.append hids (nodup_singleton _) (by simpa using hid.2.2.2.2)
    · rw [map_append]
      exact Nodup.append hnames (nodup_singleton _) (by simpa using hname)

/-- The target needs the source by name. -/
def Feeds (tasks : List Task) (source target : String) : Prop :=
  ∃ u ∈ tasks, ∃ t ∈ tasks, u.id = source ∧ t.id = target ∧ u.name ∈ t.needs

def DependsOn (tasks : List Task) (target source : String) : Prop :=
  TransGen (Feeds tasks) source target

/-- A task list with unique identities and names, whose dependencies name tasks of the list, and in
which no task depends on itself. -/
structure SoundGraph (tasks : List Task) : Prop where
  ids : (tasks.map Task.id).Nodup
  names : (tasks.map Task.name).Nodup
  edges : ∀ t ∈ tasks, ∀ need ∈ t.needs, need ∈ tasks.map Task.name
  acyclic : ∀ id, ¬DependsOn tasks id id

theorem find?_of_nodup {β : Type} [DecidableEq β] {key : Task → β} (hkeys : (tasks.map key).Nodup)
    (ht : t ∈ tasks) : tasks.find? (fun u => key u = key t) = some t := by
  cases h : tasks.find? (fun u => key u = key t) with
  | none => exact absurd (find?_eq_none.1 h t ht) (by simp)
  | some u =>
    have hkey : key u = key t := by simpa using find?_some h
    rw [inj_on_of_nodup_map hkeys (mem_of_find?_eq_some h) ht hkey]

theorem taskNamed_of_mem (hnames : (tasks.map Task.name).Nodup) (ht : t ∈ tasks) :
    taskNamed tasks t.name = some t :=
  find?_of_nodup hnames ht

/-- What the walk finds below a name whose own checks pass. -/
def graphBelow (tasks : List Task) (name : String) : Option (List String) :=
  (taskNamed tasks name).bind fun t =>
    if t.needs.Nodup ∧ (validateTaskInputs tasks t).toBool then some t.needs else none

theorem visitNeeds_eq_ok_iff {visit : List String → String → Except Err (List String)}
    {seen needs : List String} :
    visitNeeds visit seen needs done = .ok done' ↔
      (needs.Nodup ∧ ∀ need ∈ needs, need ∉ seen) ∧ needs.foldlM visit done = .ok done' := by
  induction needs generalizing seen done with
  | nil => simp [visitNeeds]
  | cons need needs ih =>
    rw [visitNeeds, foldlM_cons]
    split_ifs with hseen
    · simp [hseen]
    · simp only [bind_eq_ok_iff, ih, nodup_cons, mem_cons]
      constructor
      · rintro ⟨mid, hfirst, ⟨hnodup, hnew⟩, hrest⟩
        refine ⟨⟨⟨fun hm => hnew need hm (.inl rfl), hnodup⟩, ?_⟩, mid, hfirst, hrest⟩
        rintro n (rfl | hn)
        · exact hseen
        · exact fun hm => hnew n hn (.inr hm)
      · rintro ⟨⟨⟨hnot, hnodup⟩, hnew⟩, mid, hfirst, hrest⟩
        refine ⟨mid, hfirst, ⟨hnodup, ?_⟩, hrest⟩
        rintro n hn (rfl | hm)
        · exact hnot hn
        · exact hnew n (.inr hn) hm

theorem visitGraphTask_searches : Graph.Searches (graphBelow tasks) (visitGraphTask tasks) := by
  refine ⟨nofun, fun n path done name done' => ?_⟩
  rw [visitGraphTask, graphBelow]
  split_ifs with hpath hdone
  · simp [hpath]
  · simp [hpath, hdone]
  · cases taskNamed tasks name with
    | none => simp [hdone]
    | some t =>
      cases hinputs : validateTaskInputs tasks t <;> by_cases hnodup : t.needs.Nodup <;>
        simp [hpath, hdone, hinputs, hnodup, bind_eq_ok_iff, visitNeeds_eq_ok_iff, Except.toBool]

theorem graphBelow_eq_some_iff (hnames : (tasks.map Task.name).Nodup) (ht : t ∈ tasks)
    {next : List String} : graphBelow tasks t.name = some next ↔
      (t.needs.Nodup ∧ validateTaskInputs tasks t = .ok ()) ∧ t.needs = next := by
  rw [graphBelow, taskNamed_of_mem hnames ht]
  cases hinputs : validateTaskInputs tasks t <;> simp [hinputs, Except.toBool]

theorem leads_graphBelow {need : String} (h : Graph.Leads (graphBelow tasks) name need) :
    NameNeeds tasks name need := by
  obtain ⟨next, hnext, hneed⟩ := h
  obtain ⟨t, ht, hnext⟩ := Option.bind_eq_some_iff.1 hnext
  split_ifs at hnext
  cases hnext
  exact ⟨t, ht, hneed⟩

/-- The walk succeeds exactly when the dependencies and inputs of every task are in order and no
task depends on itself. -/
theorem visitGraphTasks_ok_iff (hnames : (tasks.map Task.name).Nodup) :
    (∃ done, visitGraphTasks tasks (tasks.map Task.name) [] = .ok done) ↔
      (∀ t ∈ tasks, t.needs.Nodup ∧ t.needs ⊆ tasks.map Task.name ∧ validateTaskInputs tasks t = .ok ()) ∧
        ∀ name, ¬TransGen (NameNeeds tasks) name name := by
  have hall := visitGraphTask_searches.all_ok_iff (l := tasks.map Task.name) (fun _ => Iff.rfl)
    fun _ _ _ _ hb => by
      obtain ⟨next, hnext⟩ := Option.isSome_iff_exists.1 hb
      obtain ⟨t, ht, -⟩ := Option.bind_eq_some_iff.1 hnext
      exact mem_names_of_taskNamed ht
  rw [length_map] at hall
  rw [visitGraphTasks, hall]
  constructor
  · rintro ⟨hnext, hacyclic⟩
    have hchecked : ∀ t ∈ tasks, graphBelow tasks t.name = some t.needs ∧
      t.needs ⊆ tasks.map Task.name := by
      intro t ht
      obtain ⟨next, hnext, hsub⟩ := hnext t.name (mem_map_of_mem ht)
      obtain ⟨-, rfl⟩ := (graphBelow_eq_some_iff hnames ht).1 hnext
      exact ⟨hnext, hsub⟩
    refine ⟨fun t ht => ?_, fun name hcycle => ?_⟩
    · obtain ⟨⟨hnodup, hinputs⟩, -⟩ := (graphBelow_eq_some_iff hnames ht).1 (hchecked t ht).1
      exact ⟨hnodup, (hchecked t ht).2, hinputs⟩
    · obtain ⟨_, ⟨t, ht, -⟩, -⟩ := TransGen.head'_iff.1 hcycle
      refine hacyclic name (mem_names_of_taskNamed ht) (TransGen.mono ?_ _ _ hcycle)
      rintro a b ⟨t, ht, hneed⟩
      obtain rfl : t.name = a := by simpa using find?_some ht
      exact ⟨t.needs, (hchecked t (mem_of_find?_eq_some ht)).1, hneed⟩
  · rintro ⟨hchecked, hacyclic⟩
    refine ⟨fun name hname => ?_, fun name _ hcycle =>
      hacyclic name (TransGen.mono (fun _ _ => leads_graphBelow) _ _ hcycle)⟩
    obtain ⟨t, ht, rfl⟩ := mem_map.1 hname
    obtain ⟨hnodup, hsub, hinputs⟩ := hchecked t ht
    exact ⟨t.needs, (graphBelow_eq_some_iff hnames ht).2 ⟨⟨hnodup, hinputs⟩, rfl⟩, hsub⟩

private def nameOf (tasks : List Task) (id : String) : String :=
  ((tasks.find? fun t => t.id = id).map Task.name).getD ""

private theorem nameOf_id {tasks : List Task} (hids : (tasks.map Task.id).Nodup) {t : Task}
    (ht : t ∈ tasks) : nameOf tasks t.id = t.name := by
  rw [nameOf, find?_of_nodup hids ht]
  rfl

theorem validateGraphTasks_sound (h : validateGraphTasks run tasks = .ok ()) : SoundGraph tasks := by
  replace h := past_guard h
  obtain ⟨_, hfields, h⟩ := of_bind h
  obtain ⟨done, hvisited, -⟩ := of_bind h
  obtain ⟨hids, hnames⟩ := validateGraphTaskFields_nodup hfields nodup_nil nodup_nil
  rw [nil_append] at hids hnames
  obtain ⟨hchecked, hacyclic⟩ := (visitGraphTasks_ok_iff hnames).1 ⟨done, hvisited⟩
  refine ⟨hids, hnames, fun t ht need hneed => (hchecked t ht).2.1 hneed, fun id hcycle => ?_⟩
  -- a cycle of tasks is a cycle of names
  have hneeds : ∀ a b, Feeds tasks a b → NameNeeds tasks (nameOf tasks b) (nameOf tasks a) := by
    rintro _ _ ⟨u, hu, t, ht, rfl, rfl, hneed⟩
    rw [nameOf_id hids hu, nameOf_id hids ht]
    exact ⟨t, taskNamed_of_mem hnames ht, hneed⟩
  exact hacyclic _ (Relation.transGen_swap.1
    (Relation.TransGen.lift (nameOf tasks) hneeds _ _ hcycle))

/-! ## The candidate -/

def replaceFirst (p : Task → Bool) (f : Task → Task) : List Task → List Task
  | [] => []
  | t :: rest => if p t then f t :: rest else t :: replaceFirst p f rest

def Task.answersTo (t : Task) (name : String) : Bool := t.id = name || t.name = name

def editRoute (route : ProviderRoute) : ProviderRoute :=
  let route := { route with model := r.model.getD route.model }
  let route :=
    match r.provider with
    | some provider => { route with providerInstanceID := provider, quotaPoolID := "" }
    | none => route
  { route with options := r.options.getD route.options }

def setTask (promptID : String) (t : Task) : Except Err Task := do
  refuseWhen (t.routes.length ≠ 1 ∧ (r.model.isSome ∨ r.provider.isSome ∨ r.options.isSome))
    { text := "route edits require exactly one route" }
  return {
    t with
    promptArtifactID := if r.prompt ≠ "" then promptID else t.promptArtifactID
    routes := if t.routes.length = 1 then t.routes.map (editRoute r) else t.routes
    timeout := r.timeout.getD t.timeout
    verification := r.verification.getD t.verification }

def editEdge {α : Type} [DecidableEq α] (add : Bool) (source : α) (edges : List α) :
    Except Err (List α) :=
  if add then
    if source ∈ edges then .error { text := "edge already exists" } else .ok (edges ++ [source])
  else if source ∈ edges then .ok (edges.erase source)
  else .error { text := "edge does not exist" }

/-- An edge to a task of another run, or to a task of this one, which is stored under its name. -/
def setEdge (tasks : List Task) (t : Task) : Except Err Task :=
  let add : Bool := r.operation = .edgeAdd
  if '/' ∈ r.source.toList then do
    let ref ← parseNodeRef r.source
    let externalNeeds ← editEdge add ref t.externalNeeds
    return { t with externalNeeds := externalNeeds }
  else
    let source := ((tasks.find? (·.answersTo r.source)).map Task.name).getD ""
    if source = "" then .error { text := "source task not found" }
    else do
      let needs ← editEdge add source t.needs
      refuseWhen (!add ∧ ((t.dependencyInputs.lookup source).getD []) ≠ [])
        { text := "edge supplies required artifacts" }
      return { t with needs := needs }

def amendTarget (tasks : List Task) (promptID : String) (t : Task) : Except Err Task :=
  match r.operation with
  | .taskSet => setTask r promptID t
  | .edgeAdd | .edgeRemove => setEdge r tasks t
  | _ => .ok t

def amendTaskList (run : WorkflowRun) (tasks : List Task) (newID promptID : String) :
    Except Err (List Task) :=
  if r.operation = .taskAdd then
    .ok (tasks ++
      [{ r.task.getD {} with
         id := newID, workflowID := run.workflowID, runID := run.id, promptArtifactID := promptID
         definitionRevision := run.graphRevision + 1 }])
  else
    match tasks.find? (·.answersTo r.taskID) with
    | none => .error { text := "ordinary target task not found" }
    | some target => do
      let amended ← amendTarget r tasks promptID target
      return replaceFirst (·.answersTo r.taskID)
        (fun _ => { amended with definitionRevision := run.graphRevision + 1 }) tasks

def amendTasks (run : WorkflowRun) (templates : List Task) (newID promptID : String) :
    Except Err (List Task) := do
  let tasks ← amendTaskList r run (tasksForRun run templates) newID promptID
  validateGraphTasks run tasks
  return tasks.insertionSort fun a b => a.id ≤ b.id

end Steward

import Steward.Domain.Errors
import Steward.Lib.Except
import Mathlib.Data.List.DropRight

/-!
# The task identity file

The record of `internal/domain/task_wait.go` that tells a running task which attempt it is: six
variables, one assignment a line. The maps of the source are lists of assignments.
-/

namespace Steward

open Except Text List

def taskWaitEnvironmentNames : List String :=
  ["T3_STEWARD_WORKFLOW_RUN_ID", "T3_STEWARD_TASK_ID", "T3_STEWARD_ATTEMPT_ID",
    "T3_STEWARD_ATTEMPT_REVISION", "T3_STEWARD_ASSIGNMENT_ID", "T3_STEWARD_THREAD_ID"]

variable (values : List (String × String)) (name : String)

def identityValue : String := (values.lookup name).getD ""

def checkIdentityValue : Except Err Unit := do
  refuseWhen (identityValue values name = "") { text := "task identity file is missing " ++ name }
  refuseWhen ((identityValue values name).toList.any fun c => c = '\n' ∨ c = '\r' ∨ c = '\x00')
    { text := "task identity value for " ++ name ++ " contains a line break" }

def identityHeader : String := "# Written by t3-steward. Identity only: this file grants nothing."

def renderTaskIdentityFile : Except Err String := do
  taskWaitEnvironmentNames.forM (checkIdentityValue values)
  let lines := taskWaitEnvironmentNames.map fun name => name ++ "=" ++ identityValue values name
  .ok (String.join ((identityHeader :: lines).map (· ++ "\n")))

/-- A line is trimmed, skipped if blank or a comment, and cut at its first `=`. -/
def parseIdentityLine (line : String × Nat) : Except Err (List (String × String)) :=
  let text := trim line.1
  let name := String.ofList (text.toList.takeWhile (· ≠ '='))
  if text = "" ∨ startsWith text "#" then .ok values
  else if '=' ∉ text.toList ∨ name ∉ taskWaitEnvironmentNames then
    .error
      { text := "task identity file line " ++ toString (line.2 + 1) ++
          " is not a known identity assignment" }
  else if (values.lookup name).isSome then .error { text := "task identity file repeats " ++ name }
  else .ok (values ++ [(name, String.ofList ((text.toList.dropWhile (· ≠ '=')).drop 1))])

def parseTaskIdentityFile (content : String) : Except Err (List (String × String)) := do
  let values ← ((content.toList.splitOn '\n').map String.ofList).zipIdx.foldlM parseIdentityLine []
  match taskWaitEnvironmentNames.find? fun name => identityValue values name = "" with
  | some name => .error { text := "task identity file is missing " ++ name }
  | none => .ok values

/-! ## Reading back what was rendered -/

def trimEnd (value : String) : String := String.ofList (value.toList.rdropWhile isSpace)

variable {values : List (String × String)} {content name value : String} {names : List String}

theorem splitOn_lines {lines : List String} (h : ∀ l ∈ lines, '\n' ∉ l.toList) :
    ((String.join (lines.map (· ++ "\n"))).toList.splitOn '\n').map String.ofList = lines ++
    [""] := by
  rw [String.toList_join]
  induction lines with
  | nil => rfl
  | cons l ls ih =>
    rw [map_cons, flatMap_cons, String.toList_append, append_assoc]
    change (splitOn '\n' (l.toList ++ '\n' :: flatMap _ _)).map _ = _
    rw [splitOn_append_cons_self_of_not_mem (h l (.head _)), map_cons,
      ih fun l hl => h l (.tail _ hl), String.ofList_toList]
    rfl

theorem dropWhile_append_cons {p : Char → Bool} {c : Char} (hc : p c = false) (l rest : List Char) :
    (l ++ c :: rest).dropWhile p = l.dropWhile p ++ c :: rest := by
  induction l with
  | nil => simp [hc]
  | cons d l ih => cases hd : p d <;> simp [hd, ih]

theorem parseIdentityLine_assignment (hname : name ∈ taskWaitEnvironmentNames)
    (hnew : values.lookup name = none) (number : Nat) :
    parseIdentityLine values (name ++ "=" ++ value, number) =
      .ok (values ++ [(name, trimEnd value)]) := by
  obtain ⟨hhead, hequals⟩ :=
    (by decide : ∀ n ∈ taskWaitEnvironmentNames, n.toList.head? = some 'T' ∧ '=' ∉ n.toList) name
      hname
  obtain ⟨t, ht⟩ := head?_eq_some_iff.1 hhead
  have hequals : ∀ c ∈ name.toList, decide (c ≠ '=') = true := fun c hc =>
    decide_eq_true fun heq => hequals (heq ▸ hc)
  have htrim : (trim (name ++ "=" ++ value)).toList = name.toList ++ '=' ::
    (trimEnd value).toList := by
    have hfront : (name ++ "=" ++ value).toList.dropWhile isSpace = name.toList ++ '=' ::
      value.toList := by
      simp [ht, show isSpace 'T' = false from rfl]
    rw [trim, hfront, reverse_append, reverse_cons, append_assoc, singleton_append,
      dropWhile_append_cons rfl]
    simp [trimEnd, rdropWhile]
  have hassigns : ¬(trim (name ++ "=" ++ value) = "" ∨
    startsWith (trim (name ++ "=" ++ value)) "#") := by
    rw [← String.toList_inj, startsWith, htrim, ht]
    simp
  simp only [parseIdentityLine, if_neg hassigns, htrim, takeWhile_append_of_pos hequals,
    dropWhile_append_of_pos hequals]
  simp [hname, hnew]

theorem parse_assignments (hnames : names ⊆ taskWaitEnvironmentNames) (hnodup : names.Nodup)
    (number : Nat) (hnew : ∀ n ∈ names, values.lookup n = none) (value : String → String) :
    ((names.map fun n => n ++ "=" ++ value n).zipIdx number).foldlM parseIdentityLine values =
      .ok (values ++ names.map fun n => (n, trimEnd (value n))) := by
  induction names generalizing values number with
  | nil => simp
  | cons n ns ih =>
    obtain ⟨hn, hns⟩ := cons_subset.1 hnames
    obtain ⟨hnot, hnodup⟩ := nodup_cons.1 hnodup
    rw [map_cons, zipIdx_cons, foldlM_cons, parseIdentityLine_assignment hn (hnew n (.head _)),
      ok_bind, ih hns hnodup]
    · simp
    · intro m hm
      rw [lookup_append, hnew m (.tail _ hm)]
      have : m ≠ n := fun heq => hnot (heq ▸ hm)
      simp [this]

/-- A file holds its values up to the white space they end with. -/
theorem parse_rendered (h : renderTaskIdentityFile values = .ok content) :
    (∀ n ∈ taskWaitEnvironmentNames, identityValue values n ≠ "") ∧
    (((content.toList.splitOn '\n').map String.ofList).zipIdx.foldlM parseIdentityLine [] =
      .ok (taskWaitEnvironmentNames.map fun n => (n, trimEnd (identityValue values n)))) := by
  obtain ⟨_, hchecks, h⟩ := of_bind h
  cases h
  have hvalues : ∀ n ∈ taskWaitEnvironmentNames, identityValue values n ≠ "" ∧
      '\n' ∉ (identityValue values n).toList := by
    intro n hn
    obtain ⟨hne, h⟩ := of_guard (forM_eq_ok hchecks n hn)
    exact ⟨hne, fun hc => refuseWhen_eq_ok_iff.1 h (any_eq_true.2 ⟨_, hc, rfl⟩)⟩
  refine ⟨fun n hn => (hvalues n hn).1, ?_⟩
  rw [splitOn_lines, cons_append, zipIdx_cons, foldlM_cons,
    show parseIdentityLine [] (identityHeader, 0) = .ok [] from rfl, ok_bind, zipIdx_append,
    foldlM_append, parse_assignments (Subset.refl _) (by decide) _ (fun _ _ => rfl), ok_bind]
  · rfl
  · intro l hl
    rcases mem_cons.1 hl with rfl | hl
    · decide
    · obtain ⟨n, hn, rfl⟩ := mem_map.1 hl
      have hname := (by decide : ∀ n ∈ taskWaitEnvironmentNames, '\n' ∉ n.toList) n hn
      simp [hname, (hvalues n hn).2]

/-- The file reads back as it was rendered exactly when no value ends in white space. -/
theorem taskIdentityFile_round_trip_iff (h : renderTaskIdentityFile values = .ok content) :
    parseTaskIdentityFile content = .ok (taskWaitEnvironmentNames.map fun n => (n, identityValue values n)) ↔
      ∀ n ∈ taskWaitEnvironmentNames, (identityValue values n).toList.getLast?.any isSpace =
      false := by
  obtain ⟨hne, hlines⟩ := parse_rendered h
  have hkept : ∀ n, trimEnd (identityValue values n) = identityValue values n ↔
      (identityValue values n).toList.getLast?.any isSpace = false := by
    intro n
    rw [trimEnd, ← String.toList_inj, String.toList_ofList, rdropWhile_eq_self_iff]
    generalize (identityValue values n).toList = l
    cases hl : l.getLast? with
    | none => simp [getLast?_eq_none_iff.1 hl]
    | some c =>
      obtain ⟨hne, rfl⟩ := mem_getLast?_eq_getLast hl
      simp [hne]
  simp only [← hkept]
  unfold parseTaskIdentityFile
  rw [hlines, ok_bind]
  constructor
  · intro hparsed n hn
    split at hparsed
    · cases hparsed
    · have := map_inj_left.1 (ok.inj hparsed) n hn
      exact (Prod.mk.inj this).2
  · intro hkept
    rw [map_congr_left fun n hn => by rw [hkept n hn]]
    have hfound : taskWaitEnvironmentNames.find? (fun name => identityValue
        (taskWaitEnvironmentNames.map fun n => (n, identityValue values n)) name = "") = none := by
      refine find?_eq_none.2 fun n hn => ?_
      rw [identityValue, lookup_graph _ hn]
      simpa using hne n hn
    rw [hfound]

def identityOf (value : String) : List (String × String) :=
  taskWaitEnvironmentNames.map fun n => (n, value)

theorem identity_value_loses_space : ∃ content, renderTaskIdentityFile
      (identityOf "x ") = .ok content ∧ parseTaskIdentityFile content = .ok (identityOf "x") := by
  obtain ⟨content, h⟩ : ∃ content, renderTaskIdentityFile (identityOf "x ") = .ok content := ⟨_, rfl⟩
  refine ⟨content, h, ?_⟩
  unfold parseTaskIdentityFile
  rw [(parse_rendered h).2, ok_bind, show taskWaitEnvironmentNames.map _ = identityOf "x" by decide]
  rfl

theorem identity_value_keeps_inner_space : ∃ content, renderTaskIdentityFile
      (identityOf " x") = .ok content ∧ parseTaskIdentityFile content = .ok (identityOf " x") := by
  obtain ⟨content, h⟩ : ∃ content, renderTaskIdentityFile (identityOf " x") = .ok content := ⟨_, rfl⟩
  exact ⟨content, h, (taskIdentityFile_round_trip_iff h).2 (by decide)⟩

end Steward

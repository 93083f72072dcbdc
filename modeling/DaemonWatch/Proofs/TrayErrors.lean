/-
  Error lists on the tray that writes to the log.

  1. **Two errors.**  The tray takes errors for the same when they agree in the fields that
     `IsOther` names.  The description of an error that the daemon sent is made of its code and its
     path (`isDescribed_of_mem`), so such errors differ at most in the name of the library and in
     the label of their age (`TrayLog.sameError_iff`).

  2. **Two lists.**  The tray takes a list for the one it shows already when both are as long and
     their errors are the same, one by one; any other list is news (`IsNews`).  So lists that are
     the same to it may differ in names too (`same_but_name_and_age`).  The name is not looked at: a
     list in which only a library has another name is not logged (`renamed_library_not_logged`).

  3. **One list after another** (`showEach`).  Each list is kept as it came, and what is logged for
     it depends on it and the one before (`Reported`).  A single list is one step
     (`reported_showErrors`), and several are an induction over it, on a tray that shows any list
     (`reported_showEach`).

  4. **Counting** (`count_cleared`): that there are no errors is logged as often as a list of errors
     is followed by an empty one.  `lists_reported` puts both together for a fresh tray.
-/
import DaemonWatch.TrayLog
import Mathlib.Data.List.Forall2

namespace DaemonWatch

namespace SyncError

/-! ## Two errors -/

/-- That two errors agree in everything but the labels of their ages. -/
def SameButAge (a b : SyncError) : Prop := b = { a with ageLabel := b.ageLabel }

/-- That two errors agree in everything but the names of their libraries and the labels of their
ages. -/
def SameButNameAndAge (a b : SyncError) : Prop :=
  b = { a with repoName := b.repoName, ageLabel := b.ageLabel }

/-- That two errors differ in what tells errors apart. -/
def IsOther (a b : SyncError) : Prop :=
  a.id ≠ b.id ∨ a.repoId ≠ b.repoId ∨ a.path ≠ b.path ∨ a.errorId ≠ b.errorId ∨
    a.timestamp ≠ b.timestamp

/-- That the description of an error is that of its code and its path.  The tray compares neither
descriptions nor names; for such errors the first makes no difference and the second does. -/
def IsDescribed (e : SyncError) : Prop := e.description = ErrorCode.describe e.errorId e.path

theorem sameButAge_iff {a b : SyncError} :
    SameButAge a b ↔ SameButNameAndAge a b ∧ a.repoName = b.repoName := by
  cases a
  cases b
  simp only [SameButAge, SameButNameAndAge, mk.injEq]
  grind

/-- The errors of a payload have the description of their code and their path. -/
theorem isDescribed_of_mem {now : Int} {payload : Json} {e : SyncError}
    (there : e ∈ listOfPayload now payload) : e.IsDescribed := by
  cases payload with
  | array entries =>
    obtain ⟨entry, _, rfl⟩ := List.mem_map.mp there
    rfl
  | _ => cases there

end SyncError

namespace TrayLog

open SyncError

theorem sameError_eq_false_iff {a b : SyncError} : sameError a b = false ↔ IsOther a b := by
  simp only [sameError, IsOther, Bool.and_eq_false_iff, decide_eq_false_iff_not, or_assoc]

/-- Errors that are described by their codes and paths are the same to the tray when they agree in
everything but the names and the ages. -/
theorem sameError_iff {a b : SyncError} (describedA : a.IsDescribed) (describedB : b.IsDescribed) :
    sameError a b = true ↔ SameButNameAndAge a b := by
  cases a
  cases b
  simp only [IsDescribed] at describedA describedB
  simp only [sameError, SameButNameAndAge, describedA, describedB, Bool.and_eq_true,
    decide_eq_true_eq]
  grind

/-! ## Two lists -/

/-- That a list is news after another one: it has another length, or an error in it is another than
the one in its place. -/
def IsNews (before after : List SyncError) : Prop :=
  before.length ≠ after.length ∨ ∃ pair ∈ before.zip after, IsOther pair.1 pair.2

theorem sameErrors_iff {before after : List SyncError} :
    sameErrors before after = true ↔
      List.Forall₂ (fun a b => sameError a b = true) before after := by
  fun_induction sameErrors before after with
  | case1 => exact iff_of_true rfl .nil
  | case2 a as b bs ih => rw [Bool.and_eq_true, ih, List.forall₂_cons]
  | case3 before after notNil notCons =>
    refine iff_of_false Bool.false_ne_true ?_
    rintro (_ | ⟨_, _⟩)
    · exact notNil rfl rfl
    · exact notCons _ _ _ _ rfl rfl

/-- The tray tells two lists apart when the second is news after the first. -/
theorem sameErrors_eq_false_iff {before after : List SyncError} :
    sameErrors before after = false ↔ IsNews before after := by
  rw [← Bool.not_eq_true, sameErrors_iff, List.forall₂_iff_zip, not_and_or, IsNews]
  simp only [← sameError_eq_false_iff, ← Bool.not_eq_true, not_forall, Prod.exists, exists_prop]

/-- Lists that the daemon sent are the same to the tray when their errors agree, one by one, in
everything but the names and the ages. -/
theorem sameErrors_described_iff {before after : List SyncError}
    (describedBefore : ∀ e ∈ before, e.IsDescribed) (describedAfter : ∀ e ∈ after, e.IsDescribed) :
    sameErrors before after = true ↔ List.Forall₂ SameButNameAndAge before after := by
  rw [sameErrors_iff, List.forall₂_iff_zip, List.forall₂_iff_zip]
  -- Errors that are paired are in the lists, so they are described.
  refine and_congr_right fun _ => forall_congr' fun a => forall_congr' fun b => ?_
  refine forall_congr' fun paired => ?_
  have there := List.of_mem_zip paired
  exact sameError_iff (describedBefore a there.1) (describedAfter b there.2)

/-- Lists agree in everything but the ages when they also agree in the names. -/
theorem forall₂_sameButAge_iff {before after : List SyncError} :
    List.Forall₂ SameButAge before after ↔
      List.Forall₂ SameButNameAndAge before after ∧
        before.map (·.repoName) = after.map (·.repoName) := by
  induction before generalizing after with
  | nil => cases after <;> simp
  | cons a before ih =>
    cases after with
    | nil => simp
    | cons b after =>
      simp only [List.forall₂_cons, List.map_cons, List.cons.injEq, ih, sameButAge_iff]
      exact and_and_and_comm

/-- Something is logged about every list that has changed. -/
theorem listNotices_ne_nil (errors : List SyncError) : listNotices errors ≠ [] := by
  unfold listNotices
  split
  next => exact List.cons_ne_nil _ _
  next filled => exact mt List.map_eq_nil_iff.mp filled

/-- **Which lists of errors are the same to the tray.**  Two lists that the daemon sent, read at any
two times, are the same when they are as long and their errors, one by one, agree in everything but
the name of the library and the label of the age.  So lists that agree in everything but the labels
are the same lists with the same names; and a list that is shown after another one is logged just
when it differs from it in more than names and labels. -/
theorem same_but_name_and_age (now now' : Int) (payload payload' : Json) :
    let current := listOfPayload now payload
    let next := listOfPayload now' payload'
    (sameErrors current next = true ↔ List.Forall₂ SameButNameAndAge current next) ∧
      (List.Forall₂ SameButAge current next ↔
        sameErrors current next = true ∧ current.map (·.repoName) = next.map (·.repoName)) ∧
      ∀ syncing, (TrayLog.showErrors ⟨syncing, current⟩ next).1 = [] ↔
        List.Forall₂ SameButNameAndAge current next := by
  intro current next
  have same : sameErrors current next = true ↔ List.Forall₂ SameButNameAndAge current next :=
    sameErrors_described_iff (fun _ => isDescribed_of_mem) (fun _ => isDescribed_of_mem)
  refine ⟨same, ?_, ?_⟩
  · rw [forall₂_sameButAge_iff, same]
  · intro syncing
    rw [← same, showErrors]
    split
    next silent => exact iff_of_true rfl silent
    next news => exact iff_of_false (listNotices_ne_nil next) news

/-- The list of one error in a library of some name. -/
def renamed (name : String) : Json :=
  .array [.ofMembers [("id", .ofInt 1), ("repo_id", .text "r1"), ("repo_name", .text name),
    ("path", .text "/a.txt"), ("err_id", .ofInt 7), ("timestamp", .ofInt 1700000000)]]

/-- When a library gets another name, the list of its errors differs in more than labels, and yet it
is the same to the tray and is not logged. -/
theorem renamed_library_not_logged :
    let current := listOfPayload 1700000000 (renamed "Docs")
    let next := listOfPayload 1700000000 (renamed "Archive")
    sameErrors current next = true ∧ ¬List.Forall₂ SameButAge current next ∧
      (TrayLog.showErrors ⟨false, current⟩ next).1 = [] := by
  intro current next
  refine ⟨by decide, ?_, by decide⟩
  rw [forall₂_sameButAge_iff]
  rintro ⟨_, sameNames⟩
  exact absurd sameNames (by decide)

/-! ## One list after another -/

/-- What each of several lists makes the tray log when they are shown one after another, and the
tray behind it. -/
def showEach (t : TrayLog) : List (List SyncError) → List (List Notice × TrayLog)
  | [] => []
  | errors :: later => t.showErrors errors :: (t.showErrors errors).2.showEach later

/-- What the log says of a list: a warning for each error, in order, or that there are none. -/
def listEntries (errors : List SyncError) : List LogEntry :=
  if errors = [] then [⟨.info, "No outstanding sync errors", []⟩]
  else errors.map fun e => ⟨.warn, e.description,
    [("repo", .text e.repoName), ("path", .text e.path), ("when", .text e.ageLabel)]⟩

/-- What becomes of a list that is shown in place of another: the tray keeps it.  Nothing is logged
when the two agree in everything but the ages.  When it is news, the log says so
(`listEntries`); and that there are no errors is logged once when there were some before, and not
otherwise. -/
structure Reported (change : List SyncError × List SyncError) (call : List Notice × TrayLog) :
    Prop where
  kept : call.2.errors = change.2
  silent : List.Forall₂ SameButAge change.1 change.2 → call.1 = []
  logged : IsNews change.1 change.2 → call.1.map Notice.entry = listEntries change.2
  cleared : call.1.count .noOutstandingErrors =
    if change.1 ≠ [] ∧ change.2 = [] then 1 else 0

theorem sameErrors_of_sameButAge {before after : List SyncError}
    (alike : List.Forall₂ SameButAge before after) : sameErrors before after = true := by
  refine sameErrors_iff.mpr (alike.imp ?_)
  intro a b same
  rw [same]
  simp only [sameError, decide_true, Bool.and_self]

theorem sameErrors_nil_iff {before : List SyncError} : sameErrors before [] = true ↔ before = [] := by
  cases before <;> simp [sameErrors]

theorem map_entry_listNotices (errors : List SyncError) :
    (listNotices errors).map Notice.entry = listEntries errors := by
  unfold listNotices listEntries
  split
  next => rfl
  next =>
    rw [List.map_map]
    rfl

theorem count_listNotices (errors : List SyncError) :
    (listNotices errors).count .noOutstandingErrors = if errors = [] then 1 else 0 := by
  unfold listNotices
  split
  next => rfl
  next =>
    rw [List.count_eq_zero, List.mem_map]
    rintro ⟨_, _, other⟩
    cases other

/-- One list in place of another.  Whether anything is logged is decided by the comparison, and all
four parts follow from its outcome; an empty list is told apart only from one that holds errors. -/
theorem reported_showErrors (t : TrayLog) (errors : List SyncError) :
    Reported (t.errors, errors) (t.showErrors errors) where
  kept := rfl
  silent alike := if_pos (sameErrors_of_sameButAge alike)
  logged news := by
    have told := sameErrors_eq_false_iff.mpr news
    simp only [showErrors, told, Bool.false_eq_true, if_false]
    exact map_entry_listNotices errors
  cleared := by
    cases same : sameErrors t.errors errors with
    | true =>
      have unchanged : ¬(t.errors ≠ [] ∧ errors = []) := by
        rintro ⟨filled, rfl⟩
        exact filled (sameErrors_nil_iff.mp same)
      simp only [showErrors, same, if_true, if_neg unchanged]
      rfl
    | false =>
      simp only [showErrors, same, Bool.false_eq_true, if_false, count_listNotices]
      -- An empty list is told apart only from one that holds errors.
      have changed : errors = [] → t.errors ≠ [] := by
        rintro rfl none
        rw [sameErrors_nil_iff.mpr none] at same
        cases same
      split
      next none => rw [if_pos ⟨changed none, none⟩]
      next filled => rw [if_neg fun cleared => filled cleared.2]

/-- Lists one after another, on a tray that shows any list. -/
theorem reported_showEach (t : TrayLog) (lists : List (List SyncError)) :
    List.Forall₂ Reported ((t.errors :: lists).zip lists) (t.showEach lists) := by
  induction lists generalizing t with
  | nil => exact .nil
  | cons errors later ih => exact .cons (reported_showErrors t errors) (ih (t.showErrors errors).2)

/-- That there are no errors is logged as often as a list was cleared. -/
theorem count_cleared {changes : List (List SyncError × List SyncError)}
    {calls : List (List Notice × TrayLog)} (reported : List.Forall₂ Reported changes calls) :
    (calls.flatMap (·.1)).count .noOutstandingErrors =
      changes.countP fun change => change.1 ≠ [] ∧ change.2 = [] := by
  induction reported with
  | nil => rfl
  | @cons change call changes calls this _ ih =>
    rw [List.flatMap_cons, List.count_append, ih, this.cleared, List.countP_cons, Nat.add_comm]
    simp only [decide_eq_true_eq]

/-- **Lists of errors shown one after another.**  On a fresh tray, which shows no errors, each list
is kept as it came, and what is logged for it is told by it and the one before it (`Reported`).  So
that there are no errors is logged just as often as a list of errors is followed by an empty one;
and it is not logged for the first list. -/
theorem lists_reported (lists : List (List SyncError)) :
    let changes := ([] :: lists).zip lists
    let calls := TrayLog.showEach {} lists
    List.Forall₂ Reported changes calls ∧
      (calls.flatMap (·.1)).count .noOutstandingErrors =
        changes.countP (fun change => change.1 ≠ [] ∧ change.2 = []) ∧
      ∀ call ∈ calls.head?, Notice.noOutstandingErrors ∉ call.1 := by
  intro changes calls
  have reported : List.Forall₂ Reported changes calls := reported_showEach {} lists
  refine ⟨reported, count_cleared reported, ?_⟩
  intro call first
  cases lists with
  | nil => cases first
  | cons errors later =>
    cases first
    have never := (reported_showErrors {} errors).cleared
    rw [if_neg fun cleared => cleared.1 rfl] at never
    exact List.count_eq_zero.mp never

/-- An empty list on a fresh tray, an error, the same error when its label has changed, and none. -/
example :
    let e : SyncError := ⟨1, "r1", "Docs", "/a.txt", 7, 0, "Network error", "3 min ago"⟩
    (TrayLog.showEach {} [[], [e], [{ e with ageLabel := "4 min ago" }], []]).map (·.1) =
      [[], [.outstandingError e], [], [.noOutstandingErrors]] := by
  decide

end TrayLog

end DaemonWatch

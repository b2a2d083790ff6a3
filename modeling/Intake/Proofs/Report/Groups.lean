import Intake.Proofs.Table
import Intake.Report.Formatter
import Intake.Report.Summary

namespace Intake

variable {α β : Type} {f : Formatter} {issues : List Issue}

/-- Items split by a key: the keys stand in the order in which they first come up, each with what is shown
of the items that have it, in the order of the items, and each item is shown once. -/
structure Table.Splits (key : α → String) (shown : α → β) (items : List α) (groups : Table (List β)) :
    Prop where
  names : Table.names groups = (items.map key).eraseDups
  group : ∀ g ∈ groups, g.2 = (items.filter (key · = g.1)).map shown
  sizes : (groups.map fun g => g.2.length).sum = items.length

theorem Table.splits_groupBy (key : α → String) (items : List α) :
    Table.Splits key id items (Table.groupBy key items) where
  names := Table.names_groupBy key items
  group := fun g hg => (Table.mem_groupBy key items hg).trans (List.map_id _).symm
  sizes := by
    have hlength := (Table.perm_groupBy key items).length_eq
    rwa [List.length_flatMap] at hlength

/-- Showing the items of groups does not move them. -/
theorem Table.Splits.map {key : α → String} {items : List α} {groups : Table (List α)}
    (h : Table.Splits key id items groups) (shown : α → β) :
    Table.Splits key shown items (groups.map fun g => (g.1, g.2.map shown)) where
  names := by
    rw [← h.names, Table.names, List.map_map]
    rfl
  group := by
    intro g hg
    obtain ⟨group, hgroup, rfl⟩ := List.mem_map.mp hg
    rw [h.group group hgroup, List.map_id]
  sizes := by
    rw [← h.sizes, List.map_map]
    simp only [Function.comp_def, List.length_map]

/-- Groups as a value: a list under each name. -/
def Formatter.ofGroups (groups : Table (List Value)) : Value := .map (groups.map fun g => (g.1, .list g.2))

/-- What a formatter is to show of issues: each of them in its place, or else all of them split by their
fields or their codes. -/
def Formatter.Presents (f : Formatter) (issues : List Issue) (v : Value) : Prop :=
  match f.grouping with
  | .none => v = .list (issues.map f.issue)
  | .field => ∃ groups, v = ofGroups groups ∧ Table.Splits (·.path) f.issue issues groups
  | .code => ∃ groups, v = ofGroups groups ∧ Table.Splits (·.code) f.issue issues groups

theorem Formatter.presents_format (f : Formatter) (issues : List Issue) :
    f.Presents issues (f.format issues) := by
  obtain ⟨grouping, detail, includePath⟩ := f
  cases grouping with
  | field => exact ⟨_, rfl, (Table.splits_groupBy _ issues).map _⟩
  | code => exact ⟨_, rfl, (Table.splits_groupBy _ issues).map _⟩
  | none => rfl

theorem Formatter.format_of_field (h : f.grouping = .field) (issues : List Issue) : f.format issues =
    ofGroups ((Table.groupBy (·.path) issues).map fun g => (g.1, g.2.map f.issue)) := by
  obtain ⟨grouping, detail, includePath⟩ := f
  obtain rfl : grouping = .field := h
  rfl

theorem Report.summary_of_two_le (h : 2 ≤ issues.length) : summary issues =
    toString issues.length ++ " validation errors in " ++
      toString (Table.groupBy (·.path) issues).length ++ " field" ++
      (if (Table.groupBy (·.path) issues).length = 1 then "" else "s") := by
  have hfields : (Table.groupBy (·.path) issues).length = (issues.map (·.path)).eraseDups.length := by
    rw [← Table.names_groupBy, Table.names, List.length_map]
  match issues, h with
  | i :: j :: rest, _ =>
    rw [hfields]
    rfl

/-- What a formatter shows of issues, the issues of a rejection by their places and the line that sums them up
all go back to one partition, in which no issue is lost, shown twice or moved ahead of another. -/
theorem issues_split_stably (f : Formatter) (issues : List Issue) (r : Rejection) :
    f.Presents issues (f.format issues) ∧ Table.Splits (·.path) id r.issues r.byPath ∧
      (f.grouping = .field → f.format r.issues =
        Formatter.ofGroups (r.byPath.map fun g => (g.1, g.2.map f.issue))) ∧
      (∀ path, (Table.get? r.byPath path).getD [] = r.issuesFor path) ∧
      (2 ≤ r.count → Report.summary r.issues = toString r.count ++ " validation errors in " ++
        toString r.byPath.length ++ " field" ++ if r.byPath.length = 1 then "" else "s") := by
  refine ⟨f.presents_format issues, Table.splits_groupBy _ _, fun h => f.format_of_field h r.issues, ?_, ?_⟩
  · exact fun path => Table.getD_get?_groupBy _ _ path
  · exact fun h => Report.summary_of_two_le h

/-- What is wrong with a form: one thing about one field, then two about another. -/
def signupIssues : List Issue :=
  [.required "email", .length "name" (.int 2) .null (.int 1), .custom "email" "Taken" "taken" none]

def signupRejection : Rejection := ⟨signupIssues, .map [("name", .text "x")], [], List.cons_ne_nil _ _⟩

theorem issues_split_stably_signup : Formatter.usual.grouping = .field ∧ 2 ≤ signupRejection.count ∧
    Formatter.usual.format signupIssues = Formatter.ofGroups
      (signupRejection.byPath.map fun g => (g.1, g.2.map Formatter.usual.issue)) ∧
    Report.summary signupIssues = "3 validation errors in 2 fields" := by
  obtain ⟨-, -, hformat, -, hsummary⟩ :=
    issues_split_stably Formatter.usual signupIssues signupRejection
  have hcount : signupRejection.count = 3 := rfl
  have hgroups : signupRejection.byPath.length = 2 := by decide
  rw [hcount, hgroups] at hsummary
  have hline := hsummary (by decide)
  exact ⟨rfl, by decide, hformat rfl, hline.trans (by cbv)⟩

end Intake

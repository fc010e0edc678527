import MarkupLint.Issue

/-!
# Reports of files

What linting came to, file by file, and the totals over all of them.
-/

namespace MarkupLint

/-- The report of one file. -/
structure FileReport where
  path : String
  report : Report
deriving Repr, Inhabited

namespace FileReport

/-- The report of a file with these issues. -/
def ofIssues (path : String) (issues : List Issue) : FileReport :=
  ⟨path, .ofIssues issues⟩

/-- The totals over several files. -/
def summarize (files : List FileReport) : Report :=
  files.foldl (fun total file => total.merge file.report) .empty

end FileReport

end MarkupLint

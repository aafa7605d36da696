import PaginationLint.Command.Run

/-!
What runs print and how they end.

One equation for each way to make a run, for what it prints on the output stream and for its ending.
-/

namespace PaginationLint

theorem run_bind {ρ α β : Type} (x : ReaderM ρ α) (next : α → ReaderM ρ β) (disk : ρ) :
    (x >>= next).run disk = (next (x.run disk)).run disk := rfl

namespace Run

variable {ρ : Type}

@[simp]
theorem stdout_output (text : String) : (output text).stdout = text := by
  simp [stdout, output]

@[simp]
theorem ending_after (written : List Written) (run : Run) :
    (run.after written).ending = run.ending := rfl

theorem stdout_after (written : List Written) (run : Run) :
    (run.after written).stdout = stdout ⟨written, .done⟩ ++ run.stdout := by
  simp [stdout, after]

@[simp]
theorem stdout_after_log (events : List Event) (run : Run) :
    (run.after (events.map .log)).stdout = run.stdout := by
  have silent : stdout ⟨events.map .log, .done⟩ = "" := by
    simp only [stdout, List.map_map]
    induction events with
    | nil => rfl
    | cons event events ih => simpa using ih
  rw [stdout_after, silent, String.empty_append]

/-- Only events are left out of a log. -/
@[simp]
theorem stdout_shownAt (verbosity : Nat) (run : Run) :
    (run.shownAt verbosity).stdout = run.stdout := by
  obtain ⟨written, ending⟩ := run
  simp only [stdout, shownAt]
  induction written with
  | nil => rfl
  | cons w written ih =>
    cases w with
    | log event =>
      by_cases shown : event.level.verbosity ≤ verbosity <;> simpa [shown] using ih
    | _ => simpa using ih

@[simp]
theorem ending_shownAt (verbosity : Nat) (run : Run) :
    (run.shownAt verbosity).ending = run.ending := rfl

/-- A run goes on only if it is not at its end. -/
theorem ending_andThen (run : Run) (next : ReaderM ρ Run) (disk : ρ) :
    ((run.andThen next).run disk).ending =
      if run.ending = .done then (next.run disk).ending else run.ending := by
  obtain ⟨written, ending⟩ := run
  cases ending <;> rfl

theorem stdout_andThen_of_done {run : Run} (h : run.ending = .done) (next : ReaderM ρ Run)
    (disk : ρ) : ((run.andThen next).run disk).stdout = run.stdout ++ (next.run disk).stdout := by
  obtain ⟨written, ending⟩ := run
  obtain rfl : ending = .done := h
  exact stdout_after written (next.run disk)

end Run

end PaginationLint

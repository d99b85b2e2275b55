import ReconcileFlow.Model.InputHash
import ReconcileFlow.ToMathlib.Separators

/-! # When two uploads have one input hash

The files are joined by `|`, which either of them may contain. The stream tells two uploads apart
unless their files are shifted over a separator, and then a lookup returns a run of the other upload.
-/

namespace ReconcileFlow

/-- The two files of an upload. -/
structure InputFiles where
  orders : Bytes
  settlements : Bytes
deriving DecidableEq, Repr

namespace InputFiles

def stream (files : InputFiles) : Bytes := inputStream files.orders files.settlements

def hash (files : InputFiles) : String := computeInputHash files.orders files.settlements

theorem hash_eq (files : InputFiles) : files.hash = sha256Hex files.stream := rfl

/-- The orders file of `second` is that of `first` and, behind a separator, bytes with which the
settlements file of `first` starts: behind them stands a separator and the settlements of `second`. -/
def Shifted (first second : InputFiles) : Prop :=
  ∃ middle, second.orders = first.orders ++ separatorByte :: middle ∧
    first.settlements = middle ++ separatorByte :: second.settlements

/-- The run is a completed one that was made from the files. -/
structure MadeFrom (files : InputFiles) (run : RunLogRow) : Prop where
  logged : run.inputHash = some files.hash
  completed : run.status = .completed

/-- A lookup for the one upload never returns a run that was made from the other. -/
def LookupSound (files other : InputFiles) : Prop :=
  ∀ (db : Database) (run : RunLogRow), MadeFrom other run →
    db.findCompletedRunByHash files.hash = some run → files = other

theorem stream_eq (files : InputFiles) :
    files.stream = files.orders ++ separatorByte :: files.settlements := by
  simp [stream, inputStream]

theorem stream_eq_iff (first second : InputFiles) : first.stream = second.stream ↔
    first = second ∨ Shifted first second ∨ Shifted second first := by
  rw [stream_eq, stream_eq, Separators.join_eq_iff]
  cases first
  cases second
  simp only [Shifted, mk.injEq]

theorem Shifted.ne {first second : InputFiles} (shifted : Shifted first second) : first ≠ second := by
  rintro rfl
  obtain ⟨middle, orders, -⟩ := shifted
  have longer := congrArg List.length orders
  rw [List.length_append, List.length_cons] at longer
  omega

/-- The stream determines the files unless they are shifted against each other. -/
theorem stream_injective_iff (first second : InputFiles) :
    (first.stream = second.stream → first = second) ↔ ¬ Shifted first second ∧ ¬ Shifted second first := by
  rw [stream_eq_iff]
  constructor
  · intro injective
    exact ⟨fun shifted => shifted.ne (injective (Or.inr (Or.inl shifted))),
      fun shifted => shifted.ne (injective (Or.inr (Or.inr shifted))).symm⟩
  · rintro ⟨apart, apart'⟩ same
    exact same.resolve_right (not_or.mpr ⟨apart, apart'⟩)

/-- A run log with one run. -/
def logOf (run : RunLogRow) : Database := { runs := .ofList RunLogRow.id [run] }

theorem findCompletedRunByHash_logOf {run : RunLogRow} {inputHash : String}
    (logged : run.inputHash = some inputHash) (completed : run.status = .completed) :
    (logOf run).findCompletedRunByHash inputHash = some run := by
  have rows : (logOf run).runs.rows = [run] := rfl
  rw [Database.findCompletedRunByHash, rows, List.filter_cons_of_pos (by simp [logged, completed])]
  rfl

theorem findCompletedRunByHash_some {db : Database} {inputHash : String} {run : RunLogRow}
    (found : db.findCompletedRunByHash inputHash = some run) :
    run ∈ db.runs.rows ∧ run.inputHash = some inputHash ∧ run.status = .completed := by
  have member := List.argmax_mem (Option.mem_def.mpr found)
  simpa using List.mem_filter.mp member

/-- A lookup is sound exactly when equal hashes mean equal files. -/
theorem lookupSound_iff (files other : InputFiles) :
    LookupSound files other ↔ (files.hash = other.hash → files = other) := by
  constructor
  · intro sound same
    let run : RunLogRow :=
      { id := "run-1", startedAt := 0, status := .completed, inputHash := some other.hash }
    refine sound (logOf run) run ⟨rfl, rfl⟩ (findCompletedRunByHash_logOf ?_ rfl)
    rw [same]
  · intro injective db run made found
    have logged := (findCompletedRunByHash_some found).2.1
    exact injective (Option.some.inj (logged.symm.trans made.logged))

/-- The stream identifies the files exactly where they are not shifted; where the two streams do not
collide under the digest, a lookup does as much. -/
theorem identified_iff (files other : InputFiles) :
    ((files.stream = other.stream → files = other) ↔ ¬ Shifted files other ∧ ¬ Shifted other files) ∧
    ((files.hash = other.hash → files.stream = other.stream) →
      (LookupSound files other ↔ ¬ Shifted files other ∧ ¬ Shifted other files)) := by
  have streams := stream_injective_iff files other
  refine ⟨streams, fun noCollision => ((lookupSound_iff files other).trans ?_).trans streams⟩
  rw [hash_eq, hash_eq]
  exact ⟨fun injective same => injective (congrArg sha256Hex same),
    fun injective same => injective (noCollision same)⟩

theorem identified_iff_swapped :
    LookupSound ⟨[111], [115]⟩ ⟨[115], [111]⟩ ↔
      ¬ Shifted ⟨[111], [115]⟩ ⟨[115], [111]⟩ ∧ ¬ Shifted ⟨[115], [111]⟩ ⟨[111], [115]⟩ :=
  (identified_iff ⟨[111], [115]⟩ ⟨[115], [111]⟩).2 fun same =>
    absurd same (by rw [hash_eq, hash_eq]; decide +kernel)

/-- The files `a|b` and `c` have the stream of the files `a` and `b|c`, and a lookup for the former
returns a run of the latter. -/
theorem shifted_files_share_hash :
    ¬ (∀ files other : InputFiles, files.stream = other.stream → files = other) ∧
      ¬ ∀ files other : InputFiles, (files.hash = other.hash → files.stream = other.stream) →
        LookupSound files other := by
  have streams : stream ⟨[97, 124, 98], [99]⟩ = stream ⟨[97], [98, 124, 99]⟩ := by decide
  have apart : (⟨[97, 124, 98], [99]⟩ : InputFiles) ≠ ⟨[97], [98, 124, 99]⟩ := by decide
  constructor
  · exact fun injective => apart (injective _ _ streams)
  · intro sound
    exact apart ((lookupSound_iff _ _).mp (sound _ _ fun _ => streams) (congrArg sha256Hex streams))

end InputFiles

end ReconcileFlow

import GoldenCheck.Proofs.Engine.AllOrNothing
import GoldenCheck.Proofs.Files.Closed

/-!
# Where a report can be made

A run of an engine leaves every entry in a directory (`Engine.run_isClosed`), and it puts a file at the
place of the report when it succeeds. So it succeeds only where nothing but directories is above the place
of the report, and nothing is below it (`Engine.Makes.apart`).
-/

namespace GoldenCheck

namespace Engine

variable {engine : EngineSettings} {root output : Path} {args : List String} {env : Environment}
  {launch : Launcher World} {d : Desk} {c : TestCase} {w w' : World} {staging l : Location}

/-- An engine that keeps to its staging file leaves every entry in a directory. -/
theorem KeepsToStaging.isClosed (h : KeepsToStaging staging w w') (hclosed : w.IsClosed)
    (hfile : w.tree.get? staging = some (.file [])) : w'.IsClosed := by
  cases staging with
  | nil => simp at hfile
  | cons name directory =>
    exact hclosed.of_eq_off h.others (fun _ => hclosed name directory (by rw [hfile]; rfl))
      fun hdir => by simp [hfile] at hdir

theorem KeepsToStaging.ne_directory (h : KeepsToStaging staging w w') :
    w'.tree.get? staging ≠ some .directory := by
  rcases h.staging with h | ⟨content, h⟩ <;> simp [h]

theorem publish_isClosed (hclosed : w.IsClosed) (hfile : w.tree.get? staging ≠ some .directory) :
    (publish engine w staging output).2.IsClosed := by
  unfold publish
  split_ifs
  · exact hclosed.removeStaging hfile
  · split
    · rename_i w' hmove
      exact hclosed.moveTo hfile hmove
    · exact hclosed.removeStaging hfile

/-- **A run leaves every entry in a directory**, however it comes out. -/
theorem run_isClosed (tidy : IsTidy (leaves launch engine root args env) output d.world)
    (hclosed : d.world.IsClosed) :
    (run launch engine root output args env d).2.world.IsClosed := by
  unfold run
  split
  · exact hclosed
  · split
    · rename_i cause made hmade
      exact hclosed.makeAllDirectories hmade
    · rename_i made hmade
      have hmadeClosed := hclosed.makeAllDirectories hmade
      split
      · exact hmadeClosed
      · rename_i staging w hmake
        obtain ⟨hne, -, hw⟩ := Staging.make_eq_ok hmake
        have hkeeps := tidy staging w (staged?_of_make hmade hmake)
        have hleft : (leaves launch engine root args env staging w).IsClosed :=
          hkeeps.isClosed (hmadeClosed.makeStaging hmake)
            (by rw [hw]; exact FileTree.get?_insert_self _ _ hne)
        unfold runStaged
        simp only
        split
        · exact publish_isClosed hleft hkeeps.ne_directory
        · exact hleft.removeStaging hkeeps.ne_directory

/-! ### Reports that are made -/

/-- The report of a case is made, by an engine that keeps to its staging file and within what the clock
can show, from files that lie in directories when the setup command has finished. -/
structure Makes (launch : Launcher World) (engine : EngineSettings) (c : TestCase) (output : Path)
    (d : Desk) : Prop where
  closed : (afterSetup launch c d).world.IsClosed
  tidy : IsTidy (leaves launch engine c.root c.args c.env) output (afterSetup launch c d).world
  clock : IsInTime engine d.now
  done : (generateCase launch engine c output d).1 = .done ()

namespace Makes

variable (h : Makes launch engine c output d)
include h

/-- The report lies at its place, and all else is as it was, but for directories on the way. -/
theorem delivered : Delivered (leaves launch engine c.root c.args c.env) output
    (afterSetup launch c d).world (generateCase launch engine c output d).2.world := by
  obtain ⟨hroot, hsetup, -⟩ := isPrepared_of_done h.done
  have hdone := h.done
  rw [generateCase_eq_run hroot hsetup] at hdone ⊢
  rcases run_comesOut h.tidy (afterSetup_now launch c d ▸ h.clock)
    with ⟨-, hdelivered⟩ | ⟨⟨failure, hfailed⟩, -⟩
  · exact hdelivered
  · rw [hfailed] at hdone
    cases hdone

/-- Away from the report, nothing has changed but that directories have come to exist. -/
theorem kept (hne : l ≠ (afterSetup launch c d).world.placeOf output) :
    World.KeptAt (Staging.directoryOf output) (afterSetup launch c d).world
      (generateCase launch engine c output d).2.world l := by
  obtain ⟨-, -, -, -, -, -, -, -, -, -, hkept⟩ := h.delivered
  exact hkept l hne

/-- **Where a report can be made**: nothing but directories was above its place, and nothing was below
it. -/
theorem apart {e : Entry} (he : (afterSetup launch c d).world.tree.get? l = some e)
    (hne : l ≠ (afterSetup launch c d).world.placeOf output) :
    (l <:+ (afterSetup launch c d).world.placeOf output → e = .directory) ∧
      ¬ (afterSetup launch c d).world.placeOf output <:+ l := by
  have hafter : (generateCase launch engine c output d).2.world.IsClosed := by
    obtain ⟨hroot, hsetup, -⟩ := isPrepared_of_done h.done
    rw [generateCase_eq_run hroot hsetup]
    exact run_isClosed h.tidy h.closed
  obtain ⟨-, -, content, -, -, -, -, hfile, -⟩ := h.delivered
  have hstill := (h.kept hne).get?_eq he
  constructor
  · intro habove
    have hdir := hafter.directory_of_suffix (by rw [hfile]; rfl) habove hne
    exact Option.some.inj (hstill.symm.trans hdir)
  · intro hbelow
    have hdir := hafter.directory_of_suffix (by rw [hstill]; rfl) hbelow hne.symm
    rw [hfile] at hdir
    cases hdir

end Makes

end Engine

end GoldenCheck

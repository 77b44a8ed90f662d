import GoldenCheck.Shell.Run

/-!
# The shell as a program

A shell is started with options and with a script, which is a text (`-c`), a file, or what there is
to read. A script that is a text may let the shell end with its last command.
-/

namespace GoldenCheck

namespace Shell

/-- The variables that a shell begins with: those that it is given, and some of its own. -/
def initialVariables (environment : List (Bytes × Bytes)) (parent : Nat) (directory : Chars) :
    List (Chars × Variable) :=
  let plain (name value : String) : Chars × Variable :=
    (ofText name, { value := some (ofText value) })
  let usual := [plain "PS1" "$ ", plain "PS2" "> ", plain "PS4" "+ ",
    (ofText "PATH", { value := some defaultPath })]
  let given := environment.filterMap fun (name, value) =>
    let name := ofBytes name
    if isName name then
      some (name, { value := some (ofBytes value), isExported := true : Variable })
    else none
  let own := [plain "OPTIND" "1", (ofText "IFS", { value := some defaultSeparators }),
    (ofText "PPID", { value := some (numeral parent) }),
    (ofText "PWD", { value := some directory, isExported := true })]
  (own ++ given ++ usual).foldr
    (fun v vs => v :: vs.filter (·.1 ≠ v.1)) []

/-- The state of a shell that has just been started. -/
def Session.initial (m : Machine) (name : Chars) (environment : List (Bytes × Bytes)) :
    Session where
  name
  ownNumber := m.current
  bindings := initialVariables environment m.self.parent (locationText m.self.cwd)
  fixedSignals := (m.self.provisions.filter (·.2 = .ignored)).map (·.1)

/-- Run what there is to read. -/
def runInput (c : Context) : ShellM Unit := do
  let content ← call (Task.readAll 0)
  let text := match content with
    | .ok bytes => ofBytes (bytes.filter (· ≠ 0))
    | .error _ => []
  let _ ← runFile c text

/-- Do what the arguments of a shell say. -/
def obey (c : Context) (args : List Chars) : ShellM Unit := do
  let st ← readSettings true args
  if (← get).has 'i' then modify (·.setOption 'm' true)
  let rename (given : List Chars) : ShellM Unit := match given with
    | [] => return
    | name :: args => modify fun s => { s with name, args }
  if st.runsText then
    match st.rest with
    | [] => fail (ofText "-c requires an argument")
    | script :: given =>
      rename given
      refuseMonitor
      let readsOn := (← get).has 's'
      let _ ← runText c { exits := !readsOn } script
      if readsOn && (← get).skip.isNone then runInput c
  else match st.rest with
    | path :: _ =>
      if (← get).has 's' then
        modify fun s => { s with args := st.rest }
        refuseMonitor
        runInput c
      else
        let text ← readScript path
        rename st.rest
        refuseMonitor
        let _ ← runFile c text
    | [] =>
      modify (·.setOption 's' true)
      refuseMonitor
      runInput c

/-- The shell. -/
def start (programs : Programs) : Program := fun argv environment => do
  let name := (argv.head?.map ofBytes).getD []
  let s ← Task.look fun m => Session.initial m name environment
  let c := Context.full programs
  runWhole c (obey c ((argv.drop 1).map ofBytes)) s

end Shell

end GoldenCheck

import Groundwork.CommandLine.Arguments
import Groundwork.CommandLine.Display
import Groundwork.Config.Load
import Groundwork.Run.Live
import Groundwork.Taskfile.Location

namespace Groundwork.CommandLine

/-! Carrying out a command.

Everything that a command needs is read and checked before its work begins: the configuration, the
taskfile, the graph, the variables, and last the targets.
-/

structure Outcome where
  value : Except Failure Unit
  machine : Machine
  moments : List Moment
  /-- The report that is printed at the end. -/
  reported : Option Report

namespace Outcome

def ofResult (result : Act.Result Machine Unit) : Outcome :=
  ⟨result.value, result.state, Moment.ofNotes none result.notes, none⟩

/-- Puts what was said before a command in front of what the command says. -/
def behind (notes : List Note) (outcome : Outcome) : Outcome :=
  { outcome with moments := Moment.ofNotes none notes ++ outcome.moments }

end Outcome

def linesText (lines : List String) : String :=
  String.join (lines.map (· ++ "\n"))

def printLines (lines : List String) : Act Machine PUnit :=
  Act.note (.printed (linesText lines).toUTF8)

def complainNote (lines : List String) : Note :=
  .complained (linesText lines).toUTF8

def environmentOf (host : Host) : Environment :=
  fun name => Table.get? name host.environment

structure Setting where
  config : Config
  taskfile : Taskfile

def startText (taskfile : Taskfile) : String :=
  Display.programName ++ " starting, taskfile=" ++ taskfile.source.shown

/-- Reads the configuration, with its overrides, and the taskfile. -/
def prepare (host : Host) (asked : Option String) : Act Machine Setting := do
  let config ← Act.onStore (Config.loadEffective host.home (environmentOf host))
  let directory ← Act.onStore (Act.look Store.workDirectory)
  let taskfile ← Act.onStore (Taskfile.locate asked config host.home directory)
  Act.log .info (startText taskfile)
  return ⟨config, taskfile⟩

/-- The variables of the configuration, and the defaults of the taskfile behind them. -/
def variablesOf (host : Host) (setting : Setting) : Except Failure Vars := do
  let environment := environmentOf host
  let vars ← setting.config.toVars host.home setting.taskfile.baseDirectory
  match Vars.addDefaults environment.nonempty environment setting.taskfile.vars.entries vars with
  | (vars, none) => return vars
  | (_, some failure) => throw failure

def loadVariables (host : Host) (setting : Setting) : Act Machine Vars :=
  fun machine => ⟨variablesOf host setting, machine, setting.config.masterCountNotes⟩

def graphOf (setting : Setting) : Act Machine TaskGraph :=
  Act.ofExcept setting.taskfile.graph

def showPlan (setting : Setting) (targets : List String) : Act Machine Unit := do
  let graph ← graphOf setting
  let plan ← Act.ofExcept (graph.resolve targets)
  printLines (Display.planLines plan)

def showTasks (setting : Setting) : Act Machine Unit := do
  let graph ← graphOf setting
  printLines (Display.taskLines graph.tasks)

def checkTools (host : Host) (setting : Setting) (targets : List String) : Act Machine Unit := do
  let graph ← graphOf setting
  let vars ← loadVariables host setting
  let plan ← Act.ofExcept (graph.resolve targets)
  let statuses ← Act.onStore (Preflight.check host.finder plan vars (environmentOf host))
  printLines (statuses.map Display.toolLine)
  Act.ofExcept (Preflight.ensureInstalled statuses)

def showConfig (host : Host) (setting : Setting) : Act Machine Unit := do
  let path ← Act.ofExcept (Config.path? host.home)
  let isPresent ← Act.read fun machine => machine.store.isPresent path
  printLines (Display.sourceLines path isPresent setting.taskfile.source.shown setting.config.stepTimeout)
  let vars ← loadVariables host setting
  printLines (Display.variableLines vars)

/-- What a run works with; the executor comes last. -/
def sequencerOf (host : Host) (setting : Setting) (executor : Except Failure (Executor σ))
    (timeout : Option Duration) : Act Machine (Sequencer σ) := do
  let graph ← graphOf setting
  let vars ← loadVariables host setting
  let executor ← Act.ofExcept executor
  return ⟨graph, executor, vars, environmentOf host, setting.taskfile.baseDirectory, timeout⟩

/-- Steps are carried out where children can be waited for. -/
def liveExecutor (host : Host) : Except Failure (Executor Machine) :=
  match host.runtime with
  | .ok () => .ok (LiveRun.executor host)
  | .error cause => .error (.io cause)

/-- A dry run shows its events, and no more. -/
def dryRun (sequencer : Sequencer DryRun.Plan) (targets : List String) (machine : Machine) : Outcome :=
  let ran := sequencer.run none targets ⟨[], none⟩
  ⟨ran.value.map fun _ => (), machine, ran.moments, none⟩

/-- What stands at the end of a run that has not been aborted. -/
def doneMoments : Except Failure Report → List Moment
  | .ok report => Moment.ofNotes none [complainNote (Display.doneLines report)]
  | .error _ => []

/-- A run.  A run that is refused has no report. -/
def liveRun (sequencer : Sequencer Machine) (targets : List String) (json : Bool) (machine : Machine) :
    Outcome :=
  let ran := sequencer.run none targets ⟨machine, none⟩
  ⟨ran.value.map fun _ => (), ran.session.state, ran.moments ++ doneMoments ran.value,
    if json then ran.session.report else none⟩

/-- Goes on with what an act gives, or ends where the act fails. -/
def afterAct (act : Act Machine α) (next : α → Machine → Outcome) (machine : Machine) : Outcome :=
  let result := act machine
  match result.value with
  | .error failure => ⟨.error failure, result.state, Moment.ofNotes none result.notes, none⟩
  | .ok value => (next value result.state).behind result.notes

def runTasks (host : Host) (setting : Setting) (targets : List String) (options : RunOptions) :
    Machine → Outcome :=
  if options.dryRun then
    afterAct (sequencerOf host setting (.ok DryRun.executor) none) fun sequencer =>
      dryRun sequencer targets
  else
    afterAct (sequencerOf host setting (liveExecutor host) setting.config.stepTimeout)
      fun sequencer => liveRun sequencer targets options.json

def perform (host : Host) (setting : Setting) (machine : Machine) : Request → Outcome
  | .run targets options => runTasks host setting targets options machine
  | .plan targets => .ofResult (showPlan setting targets machine)
  | .list => .ofResult (showTasks setting machine)
  | .check targets => .ofResult (checkTools host setting targets machine)
  | .config => .ofResult (showConfig host setting machine)

def dispatch (host : Host) (invocation : Invocation) : Machine → Outcome :=
  afterAct (prepare host invocation.taskfile) fun setting machine =>
    perform host setting machine invocation.request

end Groundwork.CommandLine

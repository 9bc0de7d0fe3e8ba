import Perimeter.Agent.Setup
import Perimeter.Controller.Server
import Perimeter.Gateway.Server
import Perimeter.Settings.Location

/-!
# `Perimeter.CommandLine`: what the program can be asked for

A configuration can be tried before a machine is started with it, and a new one can be
written. Both go through the standard streams. The program also tells where the
controller looks for its configuration.

    check MACHINE      whether a machine would start with the configuration read
    default MACHINE    the configuration in which nothing is changed
    where              the path of the controller's configuration

* `run_of_none`: what is not understood is answered by the usage.
-/

set_option autoImplicit false

namespace Perimeter.CommandLine

/-- The machines that have a configuration. -/
inductive Machine where
  | controller
  | gateway
  | agent
deriving DecidableEq

/-- The machine of a name. -/
def Machine.ofName? (name : String) : Option Machine :=
  if name = "controller" then some controller
  else if name = "gateway" then some gateway
  else if name = "agent" then some agent
  else none

/-- What is asked for. -/
inductive Command where
  | check (machine : Machine)
  | default (machine : Machine)
  | locate
deriving DecidableEq

/-- Reads the arguments. -/
def Command.ofArguments? : List String → Option Command
  | ["check", name] => (Machine.ofName? name).map .check
  | ["default", name] => (Machine.ofName? name).map .default
  | ["where"] => some .locate
  | _ => none

/-- What the program knows of its surroundings. -/
structure Surroundings where
  /-- What stands in the standard input. -/
  input : FileContent
  /-- The user's directory for configurations. -/
  configurations : Option String
  /-- The user's own directory. -/
  home : Option String

/-- The name of the standard input in messages. -/
def inputName : String := "standard input"

/-- What is said of a machine that stops short with a number out of range. -/
def outOfRange : String := "a number in the configuration is out of range"

/-- Tells whether a server starts. -/
def verdict {α : Type} (started : Except StartError α) : Except String String :=
  match started with
  | .ok _ => .ok "ok\n"
  | .error e => .error (e.message?.getD outOfRange)

/-- Tries a configuration. Authorities in files are not looked at. -/
def check (s : Surroundings) : Machine → Except String String
  | .controller => do
    let c ← (Controller.Config.load inputName s.input).mapError (·.message)
    verdict (Controller.Server.start c)
  | .gateway => do
    let c ← (Gateway.Config.load inputName s.input).mapError (·.message)
    verdict (Gateway.Server.start c none)
  | .agent => do
    let c ← (Agent.Config.load inputName s.input).mapError (·.message)
    let _ ← (Agent.Setup.ofConfig c fun _ _ _ => false).mapError (·.message)
    return "ok\n"

/-- The configuration in which nothing is changed. -/
def unchanged : Machine → Except Settings.Error String
  | .controller => Settings.write Controller.Config.form {}
  | .gateway => Settings.write Gateway.Config.form {}
  | .agent => Settings.write Agent.Config.form {}

/-- Does what is asked for. -/
def Command.run (s : Surroundings) : Command → Except String String
  | .check machine => CommandLine.check s machine
  | .default machine => (unchanged machine).mapError (·.message)
  | .locate => do
    let path ← (Settings.controllerPath s.configurations s.home).mapError (·.message)
    return path ++ "\n"

/-- How the program is used. -/
def usage : String := "usage: perimeter check|default controller|gateway|agent, perimeter where"

/-- The output for arguments, or what is wrong. -/
def run (arguments : List String) (s : Surroundings) : Except String String :=
  match Command.ofArguments? arguments with
  | some command => command.run s
  | none => .error usage

theorem run_of_none {arguments : List String} (h : Command.ofArguments? arguments = none)
    (s : Surroundings) : run arguments s = .error usage := by
  simp [run, h]

end Perimeter.CommandLine

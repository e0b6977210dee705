import VendorCli.Path.Basic
import VendorCli.Platform
/-!
# Invocations

What a command line asks for: one command with its arguments, and options that every command
understands.
-/

namespace VendorCli

/-- The form of output. -/
inductive OutputFormat where
  /-- For people. -/
  | human
  | json
  | yaml
deriving DecidableEq, Repr

/-- The form of output with this name. -/
def OutputFormat.ofName? (t : Text) : Option OutputFormat :=
  lookup? t [(("human" : Text), .human), ("json", .json), ("yaml", .yaml)]

/-- The options of all commands. -/
structure Options where
  /-- How much to tell, from 0 to 3. -/
  verbosity : Nat
  /-- The settings file. -/
  settings : Option Text
  platform : Option Platform
  /-- The file of captured output. -/
  fixtures : Option Text
  format : OutputFormat
  noColor : Bool
deriving DecidableEq, Repr

/-- A command with its arguments; files are given by their names. -/
inductive Command where
  /-- Render a template, given as such or as a file behind an at sign. -/
  | render (template : Text) (vars : Option Text) (assignments : List Text)
  /-- Parse captured output with the rules of a file. -/
  | parse (rules output : Text)
  /-- Read the node at a path. -/
  | read (path : ConfigPath)
  /-- List the entries of the list at a path. -/
  | list (path : ConfigPath)
  /-- Apply the change from one value of the node at a path to another. -/
  | write (path : ConfigPath) (before after : Option Text) (check diff : Bool)
  /-- Show the units, with their handlers if it is a long list. -/
  | units (long : Bool)
deriving Repr

/-- What a command line asks for. -/
structure Invocation where
  options : Options
  command : Command
deriving Repr

/-- Why no command is carried out. -/
inductive Refusal where
  /-- The version of the program was asked for, by this name of it. -/
  | version (program : Text)
  /-- Help was asked for. -/
  | help
  /-- The command line is wrong. -/
  | usage
deriving DecidableEq, Repr

end VendorCli

import Groundwork.Config.Basic
import Groundwork.Store.Files

namespace Groundwork.Config

/-! Reading the configuration of the operator. -/

/-- The configuration of a file; a missing file asks for nothing. -/
def load (path : String) : Act Store Config := do
  Act.log .debug ("Config::load path=" ++ path)
  if !(← Act.read (Store.isPresent · path)) then
    Act.log .debug "Config file not found, using defaults"
    return {}
  let text ← Act.look (Store.readText path)
  let config ← Act.ofExcept (parse text)
  Act.note config.loadedNote
  return config

/-- The configuration below the home directory, with the overrides of the environment. -/
def loadEffective (home : Option String) (environment : Environment) : Act Store Config := do
  let path ← Act.ofExcept (path? home)
  let config ← load path
  match config.applyOverrides environment with
  | (config, none) => return config
  | (_, some failure) => throw failure

end Groundwork.Config

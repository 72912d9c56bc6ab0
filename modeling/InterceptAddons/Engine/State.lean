import InterceptAddons.Registry

/-!
# States of an engine

The registry that is installed, the handles that are held, and the registries that dispatches are walking.
Each of them owns its registry. When the last owner of a registry goes, the registry is unloaded.
-/

namespace InterceptAddons

open Http

/-- The state of an engine. Registries are told apart by their generations, which count the loads; `held`
and `walking` have the latest first. -/
structure Engine (ν : Type) where
  generation : Nat := 0
  installed : Option (Registry ν) := none
  held : List (Registry ν) := []
  walking : List (Registry ν) := []
  options : DispatchOptions := {}
  log : List (Record ν) := []

namespace Engine

variable {ν : Type}

/-! ### Records and owners -/

def write (s : Engine ν) (r : Record ν) : Engine ν := { s with log := s.log ++ [r] }

def writeAll (s : Engine ν) (rs : List (Record ν)) : Engine ν := { s with log := s.log ++ rs }

def owners (s : Engine ν) : List (Registry ν) := s.installed.toList ++ s.held ++ s.walking

def owns (s : Engine ν) (r : Registry ν) : Bool := s.owners.any (·.generation == r.generation)

/-- Unloads a registry of which an owner has gone, unless it has another owner. -/
def letGo (s : Engine ν) (r : Registry ν) : Engine ν :=
  if s.owns r then s else s.writeAll r.unloadRecords

def letGoAll : Engine ν → List (Registry ν) → Engine ν
  | s, [] => s
  | s, r :: rs => (s.letGo r).letGoAll rs

/-! ### Registries -/

/-- Loads declarations as the next registry. -/
def load (s : Engine ν) (specs : List (AddonSpec ν)) (overrides : List AddonOverride) :
    Registry ν × Engine ν :=
  let generation := s.generation + 1
  (.load generation specs overrides,
    { s with generation }.writeAll (Registry.loadRecords generation specs overrides))

/-- Installs a registry, in the place of another one if there is one. The other one is not let go. -/
def install (s : Engine ν) (r : Registry ν) : Engine ν :=
  match s.installed with
  | none => { s with installed := some r }
  | some old =>
    { s with installed := some r }.write (.registryReplaced old.generation r.generation)

/-- Installs a registry and lets go of the one that was installed. -/
def replace (s : Engine ν) (r : Registry ν) : Engine ν :=
  s.installed.elim (s.install r) fun old => (s.install r).letGo old

/-- Installs a registry and holds the one that was installed. -/
def replaceAndHold (s : Engine ν) (r : Registry ν) : Engine ν :=
  { s.install r with held := s.installed.toList ++ s.held }

def keep (s : Engine ν) (r : Registry ν) : Engine ν := { s with held := r :: s.held }

/-- Takes another handle to the installed registry. -/
def hold (s : Engine ν) : Engine ν := s.installed.elim s s.keep

/-- Takes another handle to a held registry. -/
def shareHeld (s : Engine ν) (i : Nat) : Engine ν := s.held[i]?.elim s s.keep

/-- Installs a held registry and lets go of the one that was installed. -/
def installHeld (s : Engine ν) (i : Nat) : Engine ν :=
  match s.held[i]? with
  | none => s
  | some r => { s with held := s.held.eraseIdx i }.replace r

def releaseHeld (s : Engine ν) (i : Nat) : Engine ν :=
  match s.held[i]? with
  | none => s
  | some r => { s with held := s.held.eraseIdx i }.letGo r

/-- Gives up held handles one after the other, each by the list of handles that are left. -/
def releaseOldest (s : Engine ν) : List (Registry ν) → Engine ν
  | [] => s
  | r :: rs => ({ s with held := rs.reverse }.letGo r).releaseOldest rs

/-- Gives up all held handles, the oldest first. -/
def releaseAll (s : Engine ν) : Engine ν := s.releaseOldest s.held.reverse

/-- Gives up the installed registry; nothing is dispatched any more. -/
def close (s : Engine ν) : Engine ν :=
  match s.installed with
  | none => s
  | some r => { s with installed := none }.letGo r

/-! ### Options -/

def setOptions (s : Engine ν) (options : DispatchOptions) : Engine ν :=
  { s with options }.write (.optionsUpdated options)

/-! ### Walks -/

/-- A dispatch starts to walk a registry. -/
def enter (s : Engine ν) (r : Registry ν) : Engine ν := { s with walking := r :: s.walking }

/-- The latest dispatch ends its walk of a registry. -/
def leave (s : Engine ν) (r : Registry ν) : Engine ν :=
  { s with walking := s.walking.tail }.letGo r

end Engine

end InterceptAddons

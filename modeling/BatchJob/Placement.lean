import BatchJob.Config
import BatchJob.Host

set_option autoImplicit false

/-!
The zones and regions that a request allows. An entry that ends in `*` stands for all listed places
whose names begin with what is before it.
-/

namespace BatchJob

/-- The zone of a job that nothing else places. -/
def defaultZone : String := "us-east1-d"

/-- The beginning of names that an entry stands for, unless it is itself a name. -/
def wildcard? (entry : String) : Option (List Char) :=
  if entry.toList.getLast? = some '*' then some entry.toList.dropLast else none

/-- Names first, in their order, then the listed names that a wildcard covers. -/
def expandPrefixes (h : Host) (project : String) (kind : LocationKind) (entries : List String) :
    Traced ConfigError (List String) :=
  let wildcards := entries.filterMap wildcard?
  let names := entries.filter fun entry => (wildcard? entry).isNone
  if wildcards.isEmpty then pure names
  else do
    let listed ← (h.locations project kind).mapError fun e => .lookup kind.name e.message
    return names ++ listed.filter fun name => wildcards.any (·.isPrefixOf name.toList)

structure Placement where
  zones : List String
  regions : List String
  deriving DecidableEq

namespace Placement

/-- The names for some entries; no entries need no listing. -/
def expandAll (c : Config) (h : Host) (kind : LocationKind) (entries : List String) :
    Traced ConfigError (List String) :=
  if entries.isEmpty then pure [] else expandPrefixes h c.project kind entries

/-- The places for a configuration; the default zone if there are none. -/
def resolve (c : Config) (h : Host) : Traced ConfigError Placement :=
  if !c.zones.isEmpty && !c.regions.isEmpty then .ofExcept (.error .conflictingLocations)
  else do
    let regions ← expandAll c h .regions c.regions
    let zones ← expandAll c h .zones c.zones
    return if zones.isEmpty && regions.isEmpty then ⟨[defaultZone], []⟩ else ⟨zones, regions⟩

end Placement

end BatchJob

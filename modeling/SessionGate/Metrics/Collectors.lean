import SessionGate.Metrics

/-!
# Collectors and registries

A registry publishes the collectors that were registered in it. A collector that is asked for
without a registry is made once for each service and shared, and it is registered nowhere: the
common registry, which the service publishes, stays empty. A registry of one's own takes a single
collector, since the names of its metrics are taken after that.
-/

namespace SessionGate

inductive CollectorKey where
  /-- The shared one of a service. -/
  | shared (service : String)
  /-- The one in a registry of its own. -/
  | within (registry : String)
  deriving DecidableEq, Repr

inductive Registry where
  | common
  | own (name : String)
  deriving DecidableEq, Repr

/-- The registry a collector is registered in. -/
def CollectorKey.home? : CollectorKey → Option Registry
  | .shared _ => none
  | .within name => some (.own name)

abbrev Collectors := List (CollectorKey × Collector)

namespace Collectors

def get? (cs : Collectors) (key : CollectorKey) : Option Collector :=
  List.lookup key cs

def update (cs : Collectors) (key : CollectorKey) (f : Collector → Collector) : Collectors :=
  List.map (fun entry ↦ if entry.1 = key then (entry.1, f entry.2) else entry) cs

/-- The key under which a service asks for its collector. -/
def keyFor (service : String) (registry : Option String) : CollectorKey :=
  match registry with
  | none => .shared service
  | some name => .within name

/-- The collector of a service in a registry. The shared one is made when it is first asked for; a
registry that has a collector refuses another one. -/
def obtain (cs : Collectors) (service : String) (registry : Option String) :
    Except Defect CollectorKey × Collectors :=
  let key := keyFor service registry
  match cs.get? key with
  | none => (.ok key, cs ++ [(key, { service })])
  | some _ => (if registry.isNone then .ok key else .error .duplicateMetric, cs)

/-- What a registry publishes of collectors. The samples that a library adds to the common registry
by itself, about the process and the interpreter, are left out. -/
def published (cs : Collectors) (r : Registry) : List Sample :=
  List.flatMap (fun entry ↦ if entry.1.home? = some r then entry.2.samples else []) cs

end Collectors

end SessionGate

import Rollout.Plugin.RailsApp
import Rollout.Provider.DigitalOcean
import Rollout.Provider.DockerDesktop

namespace Rollout

abbrev Registry (α : Type) := List (String × (Settings → α))

namespace Registry

variable {α : Type}

def empty : Registry α := []

def register (registry : Registry α) (id : String) (make : Settings → α) : Registry α :=
  Sorted.put id make registry

def ids (registry : Registry α) : List String := registry.map Prod.fst

def contains (registry : Registry α) (id : String) : Bool := registry.ids.contains id

def build? (registry : Registry α) (id : String) (settings : Settings) : Option α :=
  (registry.lookup id).map fun make => make settings

def listed (registry : Registry α) : String := ", ".intercalate registry.ids

def debug (registry : Registry α) (name : String) : String :=
  name ++ " \x7b ids: [" ++ ", ".intercalate (registry.ids.map Text.quoted) ++ "] \x7d"

end Registry

structure Registries where
  providers : Registry Provider
  plugins : Registry Plugin

namespace Registries

def empty : Registries := ⟨[], []⟩

def builtin : Registries :=
  ⟨[(DigitalOcean.providerId, DigitalOcean.provider),
     (DockerDesktop.providerId, DockerDesktop.provider)],
    [(Postgres.pluginId, Postgres.plugin), (RailsApp.pluginId, RailsApp.plugin)]⟩

def withProvider (r : Registries) (id : String) (make : Settings → Provider) : Registries :=
  { r with providers := r.providers.register id make }

def withPlugin (r : Registries) (id : String) (make : Settings → Plugin) : Registries :=
  { r with plugins := r.plugins.register id make }

def provider (r : Registries) (id : String) (settings : Settings) : Except Error Provider :=
  match r.providers.build? id settings with
  | some p => .ok p
  | none => .error (.registry (.unknownProvider id r.providers.listed))

def plugin (r : Registries) (id : String) (settings : Settings) : Except Error Plugin :=
  match r.plugins.build? id settings with
  | some p => .ok p
  | none => .error (.registry (.unknownPlugin id r.plugins.listed))

def providersDebug (r : Registries) : String := r.providers.debug "ProviderRegistry"
def pluginsDebug (r : Registries) : String := r.plugins.debug "PluginRegistry"

end Registries

end Rollout

import Rollout.Error
import Rollout.Resource
import Rollout.Image
import Rollout.Settings

namespace Rollout

abbrev Exports := List (String × String)

-- What a plugin is told. The way into the cluster and the resources of earlier plugins are left out,
-- since no plugin here reads them; what holds of all registries does not cover one that does.
structure PluginContext where
  app : String
  environment : String
  namespaceName : String
  image : Image
  registrySecret : Option String
  -- What earlier plugins exported, by plugin id.
  exports : Declared Exports

namespace PluginContext

def objectName (ctx : PluginContext) (suffix : String) : String := ctx.app ++ "-" ++ suffix

def defaultDatabase (ctx : PluginContext) : String :=
  (ctx.app ++ "_" ++ ctx.environment).map fun c => if c = '-' then '_' else c

def selector (ctx : PluginContext) (component : String) : Json :=
  .object [("app.kubernetes.io/component", .string component),
    ("app.kubernetes.io/name", .string ctx.app)]

end PluginContext

structure Contribution where
  resources : List Resource
  exports : Exports

structure Plugin where
  id : String
  requires : List String
  violations : List Violation
  contribute : PluginContext → Except Error Contribution

namespace Plugin

def tooLate : String := "it must be declared before the plugin that uses it"
def undeclared : String := "it is not declared in this environment"

def unmet? (earlier : List String) (p : Plugin) : Option String :=
  p.requires.find? fun id => !earlier.contains id

-- Checks plugins behind those with the `earlier` ids; `all` are the ids of the whole list.
def checkOrderFrom (all earlier : List String) : List Plugin → Except PluginOrderError Unit
  | [] => .ok ()
  | p :: rest =>
    match unmet? earlier p with
    | some id => .error ⟨p.id, id, if all.contains id then tooLate else undeclared⟩
    | none => checkOrderFrom all (earlier ++ [p.id]) rest

-- Every requirement of a plugin has to be declared before it.
def checkOrder (plugins : List Plugin) : Except PluginOrderError Unit :=
  checkOrderFrom (plugins.map Plugin.id) [] plugins

end Plugin

end Rollout

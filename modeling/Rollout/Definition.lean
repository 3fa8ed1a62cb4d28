import Rollout.Image
import Rollout.Settings

namespace Rollout

structure RegistryLogin where
  username : Value
  password : Value
  email : Value
  deriving DecidableEq

structure DockerConfig where
  image : Image
  login : Option RegistryLogin
  dockerfile : String
  buildContext : String
  deriving DecidableEq

-- Where it runs: providers and plugins by id, in the order that counts.
structure KubernetesConfig where
  namespaceName : Option String
  providers : Declared Settings
  plugins : Declared Settings
  deriving DecidableEq

structure Environment where
  name : String
  app : String
  docker : DockerConfig
  kubernetes : KubernetesConfig
  deriving DecidableEq

structure Definition where
  app : String
  environments : Declared Environment

def KubernetesConfig.provider? (k : KubernetesConfig) : Option (String × Settings) :=
  k.providers.getLast?

def RegistryLogin.toJson (login : RegistryLogin) : Json :=
  .object [("username", login.username.toJson), ("password", login.password.toJson),
    ("email", login.email.toJson)]

def RegistryLogin.debug (login : RegistryLogin) : String :=
  Text.record "RegistryCredentials" [("username", login.username.debug),
    ("password", login.password.debug), ("email", login.email.debug)]

def optional (value : Option String) : Json := (value.map Json.string).getD .null

def DockerConfig.toJson (docker : DockerConfig) : Json :=
  .object [("image", .string docker.image.render),
    ("credentials", (docker.login.map RegistryLogin.toJson).getD .null),
    ("dockerfile", .string docker.dockerfile), ("build_context", .string docker.buildContext)]

def DockerConfig.debug (docker : DockerConfig) : String :=
  Text.record "DockerConfig" [("image", docker.image.debug),
    ("credentials", Text.option (docker.login.map RegistryLogin.debug)),
    ("dockerfile", Text.quoted docker.dockerfile),
    ("build_context", Text.quoted docker.buildContext)]

def blocksToJson (blocks : Declared Settings) : Json :=
  .object (blocks.map fun (id, settings) => (id, settings.toJson))

def KubernetesConfig.toJson (k : KubernetesConfig) : Json :=
  .object [("namespace", optional k.namespaceName), ("providers", blocksToJson k.providers),
    ("plugins", blocksToJson k.plugins)]

def blocksDebug (blocks : Declared Settings) : String :=
  Text.mapping (blocks.map fun (id, settings) => (id, settings.debug))

def KubernetesConfig.debug (k : KubernetesConfig) : String :=
  Text.record "KubernetesConfig" [("namespace", Text.option (k.namespaceName.map Text.quoted)),
    ("providers", blocksDebug k.providers), ("plugins", blocksDebug k.plugins)]

namespace Environment

def namespaceOf (env : Environment) : String :=
  env.kubernetes.namespaceName.getD (env.app ++ "-" ++ env.name)

-- The image pull secret, which there is when the registry needs a login.
def registrySecret? (env : Environment) : Option String :=
  env.docker.login.map fun _ => env.app ++ "-registry"

def toJson (env : Environment) : Json :=
  .object [("name", .string env.name), ("app", .string env.app), ("docker", env.docker.toJson),
    ("kubernetes", env.kubernetes.toJson)]

def debug (env : Environment) : String :=
  Text.record "Environment" [("name", Text.quoted env.name), ("app", Text.quoted env.app),
    ("docker", env.docker.debug), ("kubernetes", env.kubernetes.debug)]

end Environment

end Rollout

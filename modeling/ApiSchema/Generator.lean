import ApiSchema.Method.Unify
import ApiSchema.Platform.Alibaba
import ApiSchema.Platform.Alipay
import ApiSchema.Platform.Doudian
import ApiSchema.Platform.Kuaishou
import ApiSchema.Platform.Taobao
import ApiSchema.Platform.Weixin.Platform
import ApiSchema.Target.Python
import ApiSchema.Target.TypeScript

set_option autoImplicit false

namespace ApiSchema

def builtinPlatforms : List Platform :=
  [Doudian.platform, Weixin.platform, Alipay.platform, Alibaba.platform, Kuaishou.platform,
    Taobao.platform]

/-- The first platform with an id, whatever the case of its letters. -/
def findPlatform? (platforms : List Platform) (id : String) : Option Platform :=
  platforms.find? fun platform => Text.equalsIgnoringCase platform.id id

/-- The first platform whose documentation a request carries. -/
def detectPlatform? (platforms : List Platform) (host method url : String) : Option Platform :=
  platforms.find? fun platform => platform.carries host method url

def builtinTargets : List Target := [Python.target, TypeScript.target]

/-- The first language with a name, whatever the case of its letters and the space around it. -/
def findTarget? (targets : List Target) (language : String) : Option Target :=
  targets.find? fun target => Text.equalsIgnoringCase target.language (Text.trim language)

inductive Documentation where
  | payload (text : String)
  | page (page : Page)

/-- The platforms and languages that a generator knows. -/
structure Registry where
  platforms : List Platform
  targets : List Target

def Registry.builtin : Registry := ⟨builtinPlatforms, builtinTargets⟩

namespace Registry

def platform (registry : Registry) (id : String) : Except Failure Platform :=
  match findPlatform? registry.platforms id with
  | some platform => .ok platform
  | none => .error (.unknownPlatform id)

def target (registry : Registry) (language : String) : Except Failure Target :=
  match findTarget? registry.targets language with
  | some target => .ok target
  | none => .error (.unknownLanguage language)

end Registry

structure Generator where
  settings : Settings
  source : Source

namespace Generator

/-- The generator that looks structures up over a network, at the addresses of its settings. -/
def connect (network : Network) (settings : Settings) : Except Failure Generator :=
  match network settings.timeout with
  | .error reason => .error (.settings ("HTTP client: " ++ reason))
  | .ok client => .ok ⟨settings, .endpoints client settings⟩

/-- The method that documentation describes, as the platform gives it. -/
def read (generator : Generator) (platform : Platform) (documentation : Documentation)
    (sourceUrl : Option String) : Lookup Method :=
  let context : Context := ⟨sourceUrl, generator.source⟩
  match documentation with
  | .payload text => platform.parse context text
  | .page page => platform.parsePage context page

/-- The method that documentation describes, its nested models unified. -/
def parse (generator : Generator) (platform : Platform) (documentation : Documentation)
    (sourceUrl : Option String) : Lookup Method :=
  (generator.read platform documentation sourceUrl).bind fun method => .ok method.unify

def render (generator : Generator) (platform : Platform) (target : Target) (method : Method) :
    List String :=
  target.emit method
    (.of generator.settings (generator.settings.basesFor platform.id platform.bases))

/-- The lines for the outcome of reading: those of the method, or a comment on the failure. -/
def renderOutcome (generator : Generator) (platform : Platform) (target : Target)
    (outcome : Except Failure Method) : List String :=
  match outcome with
  | .ok method => generator.render platform target method
  | .error failure => [target.comment failure.text]

/-- The ids of structures asked for, and the lines for documentation of a platform in a language. -/
def generate (registry : Registry) (generator : Generator) (platform language : String)
    (documentation : Documentation) : List String × List String :=
  match registry.target language with
  | .error failure => ([], [Python.comment failure.text])
  | .ok target =>
      match registry.platform platform with
      | .error failure => ([], [target.comment failure.text])
      | .ok platform =>
          let parsed := generator.parse platform documentation none
          (parsed.requested, generator.renderOutcome platform target parsed.result)

end Generator

end ApiSchema

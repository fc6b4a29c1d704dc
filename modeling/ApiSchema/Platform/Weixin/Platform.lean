import ApiSchema.Platform.Basic
import ApiSchema.Platform.Weixin.Outline
import ApiSchema.Url.Address

set_option autoImplicit false

namespace ApiSchema.Weixin

open ApiSchema.Naming

/-- A product with pages of its own. -/
inductive Product where
  | channels
  | miniStore
  | miniProgram
  deriving DecidableEq

def Product.ofUrl? (url : String) : Option Product :=
  if Text.contains url "/doc/channels/" then some .channels
  else if Text.contains url "/doc/ministore/" then some .miniStore
  else if Text.contains url "/miniprogram/dev/" then some .miniProgram
  else none

/-- The anchor of the block that gives the address of the method. -/
def urlAnchor : String := "接口调用请求说明"

def paramAnchor : String := "请求参数说明"

def Product.responseAnchor : Product → String
  | .channels => "返回参数说明"
  | .miniStore | .miniProgram => "回包参数说明"

def productNotFound : String := "未找到产品类型"

def urlNotFound : String := "解析 URL 失败"

def apiOrigin : String := "https://api.weixin.qq.com/"

def apiAddress? (word : String) : Option String :=
  (Text.cutAt apiOrigin.toList word.toList).map fun (before, _) =>
    String.ofList (word.toList.drop before.length)

/-- The first address of a method in the block that gives it. -/
def methodUrl? (page : Page) : Option Url.Address :=
  (page.block? urlAnchor).bind fun block =>
    ((Text.words block).findSome? apiAddress?).bind fun address => (Url.read address).toOption

def Entry.isList (entry : Entry) : Bool := entry.type.type == Primitive.list.tag

/-- The model that the elements of a list belong to. -/
def Entry.elementModel? (entry : Entry) : Option String :=
  entry.type.element.filter fun element => !Primitive.isTag element

def dialect : Dialect Entry where
  name entry := entry.name
  isObject tree :=
    !tree.label.isList && (!tree.children.isEmpty || Field.isReference tree.label.type.type)
  isObjectList tree :=
    tree.label.isList && (!tree.children.isEmpty || tree.label.elementModel?.isSome)
  resolve entry := entry.type
  modelName entry :=
    if entry.isList then entry.elementModel?.getD (pascalCase entry.name)
    else if Field.isReference entry.type.type then entry.type.type
    else pascalCase entry.name
  isRequired entry := entry.required
  description entry := entry.description

def readTable (page : Page) (anchor : String) : Lookup (List (Tree Entry)) :=
  .ofExcept ((collectRows page anchor).map forestOf)

/-- Reads a page. Its address is the source if no other is given. -/
def parsePage (context : Context) (page : Page) : Lookup Method :=
  let address := if page.url.isEmpty then context.sourceUrl.getD "" else page.url
  match Product.ofUrl? address with
  | none => noted productNotFound
  | some product =>
      match (methodUrl? page).bind fun url => apiName? url.pathText with
      | none => noted urlNotFound
      | some names => do
          let params ← readTable page paramAnchor
          let responses ← readTable page product.responseAnchor
          let method := assemble dialect context names params responses
          if method.comments.isEmpty && !page.url.isEmpty then
            return { method with comments := [page.url] }
          return method

/-- Reads a payload, which is a page written as JSON. -/
def parse (context : Context) (payload : String) : Lookup Method := do
  let page ← readJson Page.record.decode payload
  parsePage context page

def platform : Platform where
  id := "weixin"
  displayName := "微信"
  bases := .ofFamily "Wop"
  carries host _ _ := host == "developers.weixin.qq.com"
  parse := parse
  parsePage := parsePage

end ApiSchema.Weixin

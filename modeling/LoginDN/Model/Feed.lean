import LoginDN.Decoding.Container
import LoginDN.Model.Interface

/-! # The feed: one request, its answer, and the articles kept

Three layers look at the answer, each with its own notion of failure: the response serializer of
Alamofire, `NewsAPI` with a pair of a result and an error, and `NewsController` with the error
alone. What Foundation makes of bodies, keys and addresses is a parameter.
-/

namespace LoginDN

open Decoding

/-- An article of the feed. -/
structure News where
  headline : String
  url : String
  inserted : String
  picSrc : String
  featured : String
deriving DecidableEq, Repr

/-- What `JSONSerialization` makes of a body. A number keeps its text. -/
inductive Json where
  | null
  | bool (value : Bool)
  | number (text : String)
  | string (value : String)
  | array (items : List Json)
  | object (members : List (String × Json))

/-- The functions of Foundation that the feed rests on: the parser of a body, the conversion of its
keys, and whether `URL(string:)` makes a URL of a string. -/
structure Foundation where
  jsonObject : List UInt8 → Except NSError Json
  convertFromSnakeCase : String → String
  isURL : String → Bool

/-- What Alamofire hands to its serializers and to the response handler. -/
structure Answer where
  statusCode : Option ℤ
  data : Option (List UInt8)
  error : Option NSError

namespace Json

def string? : Json → Option String
  | .string value => some value
  | _ => none

def array? : Json → Option (List Json)
  | .array items => some items
  | _ => none

end Json

namespace Foundation

variable (foundation : Foundation)

/-- The value a keyed container has for a coding key. -/
def value? (name : String) : Json → Option Json
  | .object members => Container.value? foundation.convertFromSnakeCase name members
  | _ => none

def string? (name : String) (json : Json) : Option String := (foundation.value? name json).bind Json.string?

/-- `News.init(from:)` as the compiler derives it. -/
def news? (json : Json) : Option News := do
  let headline ← foundation.string? "headline" json
  let url ← foundation.string? "url" json
  let inserted ← foundation.string? "inserted" json
  let picSrc ← foundation.string? "picSrc" json
  let featured ← foundation.string? "featured" json
  return ⟨headline, url, inserted, picSrc, featured⟩

/-- `NewsRequest.init(from:)`, its one field. -/
def newsRequest? (json : Json) : Option (List News) :=
  ((foundation.value? "news" json).bind Json.array?).bind (List.mapM foundation.news?)

/-- `JSONDecoder.decode`: the body is parsed, then decoded as a whole. -/
def decode (data : List UInt8) : Option (List News) :=
  (foundation.jsonObject data).toOption.bind foundation.newsRequest?

/-- `Request.serializeResponseJSON` of Alamofire. -/
def serializeResponseJSON (answer : Answer) : Except NSError Json :=
  match answer.error with
  | some error => .error error
  | none =>
      if answer.statusCode = some 204 ∨ answer.statusCode = some 205 then .ok .null
      else match answer.data with
        | none | some [] =>
            .error ⟨"Response could not be serialized, input data was nil or zero length."⟩
        | some (byte :: rest) =>
            match foundation.jsonObject (byte :: rest) with
            | .ok json => .ok json
            | .error error =>
                .error ⟨"JSON could not be serialized because of error:\n" ++ error.localizedDescription⟩

/-- `response.error`, the failure of the serialized result. -/
def responseError (answer : Answer) : Option NSError :=
  match foundation.serializeResponseJSON answer with
  | .ok _ => none
  | .error error => some error

end Foundation

/-- A Foundation that knows one body and what it parses to, leaves its keys alone, and makes no URL of
the empty string. -/
def Foundation.ofBody (body : List UInt8) (json : Json) : Foundation where
  jsonObject data := if data = body then .ok json else .error ⟨"The data is not in the correct format."⟩
  convertFromSnakeCase key := key
  isURL string := string != ""

/-- The error object made by `NSError()`. -/
def NSError.blank : NSError := ⟨""⟩

namespace NewsAPI

/-- The calls of `resultRequest` that the response handler makes, in order. -/
def getNews (foundation : Foundation) (response : Answer) : List (Option (List News) × Option NSError) :=
  if response.statusCode = some 200 then
    match response.data with
    | none => [(none, some NSError.blank)]
    | some dataJSON =>
        match foundation.decode dataJSON with
        | some news => [(some news, none)]
        | none => [(none, some NSError.blank)]
  else [(none, foundation.responseError response)]

end NewsAPI

namespace NewsController

/-- The closure of `getNewsApi`: the articles afterwards and what its completion is told. -/
def getNewsApi.closure (arrayNews : List News) (news : Option (List News)) (erro : Option NSError) :
    List News × Bool :=
  if erro ≠ none then (arrayNews, false) else (news.getD [], true)

/-- The articles after a request with this answer, and the calls of the completion in order. -/
def getNewsApi (foundation : Foundation) (arrayNews : List News) (answer : Answer) : List News × List Bool :=
  (NewsAPI.getNews foundation answer).foldl
    (fun state call =>
      let (kept, success) := getNewsApi.closure state.1 call.1 call.2
      (kept, state.2 ++ [success]))
    (arrayNews, [])

def getArraySize (arrayNews : List News) : ℕ := arrayNews.length

/-- The subscript traps outside the array. -/
def getElementAt (arrayNews : List News) (index : ℕ) : Option News := arrayNews[index]?

end NewsController

end LoginDN

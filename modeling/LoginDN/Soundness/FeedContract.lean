import LoginDN.Model.Feed

/-! # When the feed request keeps its promises

The completion is called once for every answer. What it is told is right for status 200, where the
body is decoded or refused as a whole, and for an answer with an error. For any other status the
controller is told of the serializer's error alone, so a page of an HTTP error that happens to be
valid JSON is reported as a success with no articles.
-/

namespace LoginDN.FeedContract

open Decoding Foundation

variable (foundation : Foundation)

/-- The item is an object with string values for the five fields of the article. -/
def IsArticle (item : Json) (news : News) : Prop :=
  ∃ members, item = .object members ∧
    Container.Holds foundation.convertFromSnakeCase "headline" (.string news.headline) members ∧
    Container.Holds foundation.convertFromSnakeCase "url" (.string news.url) members ∧
    Container.Holds foundation.convertFromSnakeCase "inserted" (.string news.inserted) members ∧
    Container.Holds foundation.convertFromSnakeCase "picSrc" (.string news.picSrc) members ∧
    Container.Holds foundation.convertFromSnakeCase "featured" (.string news.featured) members

/-- An object whose `news` is an array of these articles, in this order. -/
def IsFeed (json : Json) (articles : List News) : Prop :=
  ∃ members items, json = .object members ∧
    Container.Holds foundation.convertFromSnakeCase "news" (.array items) members ∧
      List.Forall₂ (IsArticle foundation) items articles

/-- Status 200 with a feed of these articles as its body. -/
def Delivers (answer : Answer) (articles : List News) : Prop :=
  answer.statusCode = some 200 ∧ ∃ body json, answer.data = some body ∧
    foundation.jsonObject body = .ok json ∧ IsFeed foundation json articles

/-- One call of the completion, true exactly for a feed, which is then kept as it is; the articles of
before are kept otherwise. -/
def Contract (arrayNews : List News) (answer : Answer) : Prop :=
  ∃ kept success, NewsController.getNewsApi foundation arrayNews answer = (kept, [success]) ∧
    (success = true ↔ ∃ articles, Delivers foundation answer articles) ∧
    (∀ articles, Delivers foundation answer articles → kept = articles) ∧
    (success = false → kept = arrayNews)

/-- In the objects that a feed consists of no two keys are converted to the same one. -/
def DistinctKeys (json : Json) : Prop :=
  ∀ members, json = .object members → Container.Distinct foundation.convertFromSnakeCase members ∧
    ∀ key items, (key, Json.array items) ∈ members → ∀ item ∈ items, ∀ inner, item = .object inner →
      Container.Distinct foundation.convertFromSnakeCase inner

/-- The transfer succeeded and the serializer finds nothing to refuse. -/
def Accepted (answer : Answer) : Prop :=
  answer.error = none ∧ (answer.statusCode = some 204 ∨ answer.statusCode = some 205 ∨
    ∃ body json, answer.data = some body ∧ body ≠ [] ∧ foundation.jsonObject body = .ok json)

variable {foundation}

/-- A string field is read exactly when some member holds it. -/
private theorem string?_eq_some_iff {members : List (String × Json)} {name value : String}
    (distinct : Container.Distinct foundation.convertFromSnakeCase members) :
    foundation.string? name (.object members) = some value ↔
      Container.Holds foundation.convertFromSnakeCase name (.string value) members := by
  rw [← Container.value?_eq_some_iff distinct, Foundation.string?, Option.bind_eq_some_iff]
  constructor
  · rintro ⟨json, found, text⟩
    cases json with
    | string other =>
      obtain rfl := Option.some.inj text
      exact found
    | _ => contradiction
  · exact fun found => ⟨_, found, rfl⟩

/-- The derived initializer reads exactly the articles. -/
theorem news?_eq_some_iff {item : Json} {news : News}
    (distinct : ∀ members, item = .object members → Container.Distinct foundation.convertFromSnakeCase members) :
    foundation.news? item = some news ↔ IsArticle foundation item news := by
  cases item with
  | object members =>
    have field := fun name value => @string?_eq_some_iff foundation members name value (distinct members rfl)
    simp only [news?, bind, Option.bind_eq_some_iff, pure, Option.some.injEq, field]
    constructor
    · rintro ⟨headline, first, url, second, inserted, third, picSrc, fourth, featured, fifth, rfl⟩
      exact ⟨members, rfl, first, second, third, fourth, fifth⟩
    · rintro ⟨_, ⟨⟩, first, second, third, fourth, fifth⟩
      exact ⟨_, first, _, second, _, third, _, fourth, _, fifth, rfl⟩
  | _ =>
    constructor
    · exact nofun
    · rintro ⟨_, ⟨⟩, _⟩

/-- A body is decoded exactly when it is a feed, and into its articles. -/
theorem newsRequest?_eq_some_iff {json : Json} {articles : List News} (distinct : DistinctKeys foundation json) :
    foundation.newsRequest? json = some articles ↔ IsFeed foundation json articles := by
  cases json with
  | object members =>
    obtain ⟨outer, inner⟩ := distinct members rfl
    have items (list : List Json)
        (member : Container.Holds foundation.convertFromSnakeCase "news" (.array list) members) :
        list.mapM foundation.news? = some articles ↔ List.Forall₂ (IsArticle foundation) list articles := by
      obtain ⟨key, present, _⟩ := member
      rw [Container.mapM_eq_some_iff]
      exact Container.forall₂_congr_mem fun item listed _ => news?_eq_some_iff (inner key list present item listed)
    simp only [newsRequest?, Foundation.value?, Option.bind_eq_some_iff, Container.value?_eq_some_iff outer]
    constructor
    · rintro ⟨list, ⟨found, holds, same⟩, decoded⟩
      cases found with
      | array other =>
        obtain rfl := Option.some.inj same
        exact ⟨members, other, rfl, holds, (items other holds).mp decoded⟩
      | _ => contradiction
    · rintro ⟨_, list, ⟨⟩, holds, decoded⟩
      exact ⟨list, ⟨_, holds, rfl⟩, (items list holds).mpr decoded⟩
  | _ =>
    constructor
    · exact nofun
    · rintro ⟨_, _, ⟨⟩, _⟩

/-- With status 200 a body counts for what it is decoded into. -/
theorem delivers_iff {answer : Answer} {body : List UInt8} {articles : List News}
    (ok : answer.statusCode = some 200) (data : answer.data = some body)
    (distinct : ∀ json, foundation.jsonObject body = .ok json → DistinctKeys foundation json) :
    Delivers foundation answer articles ↔ foundation.decode body = some articles := by
  unfold Delivers Foundation.decode
  cases parsed : foundation.jsonObject body with
  | error error => simp [data, parsed, Except.toOption]
  | ok json =>
    have decoded : foundation.newsRequest? json = some articles ↔ IsFeed foundation json articles :=
      newsRequest?_eq_some_iff (distinct json parsed)
    simp [ok, data, parsed, Except.toOption, decoded]

/-- The serializer finds no error exactly in an answer it accepts. -/
theorem responseError_eq_none_iff (answer : Answer) :
    foundation.responseError answer = none ↔ Accepted foundation answer := by
  unfold Foundation.responseError Foundation.serializeResponseJSON Accepted
  cases answer.error with
  | some error => simp
  | none =>
    by_cases empty : answer.statusCode = some 204 ∨ answer.statusCode = some 205
    · simp only [if_pos empty, true_and, true_iff]
      exact empty.elim .inl fun reset => .inr (.inl reset)
    · obtain ⟨noContent, resetContent⟩ := not_or.mp empty
      simp only [noContent, resetContent, true_and, false_or]
      cases answer.data with
      | none => simp
      | some body =>
        cases body with
        | nil => simp
        | cons byte rest => cases parsed : foundation.jsonObject (byte :: rest) <;> simp [parsed]

private theorem getNewsApi_ok {arrayNews : List News} {answer : Answer} (ok : answer.statusCode = some 200) :
    NewsController.getNewsApi foundation arrayNews answer =
      match answer.data.bind foundation.decode with
      | some news => (news, [true])
      | none => (arrayNews, [false]) := by
  simp only [NewsController.getNewsApi, NewsAPI.getNews, if_pos ok]
  cases answer.data with
  | none => rfl
  | some body => cases decoded : foundation.decode body <;> simp [decoded, NewsController.getNewsApi.closure]

private theorem getNewsApi_other {arrayNews : List News} {answer : Answer} (other : answer.statusCode ≠ some 200) :
    NewsController.getNewsApi foundation arrayNews answer =
      if foundation.responseError answer = none then ([], [true]) else (arrayNews, [false]) := by
  simp only [NewsController.getNewsApi, NewsAPI.getNews, if_neg other]
  cases foundation.responseError answer <;> rfl

/-- For every articles of before and every answer whose keys do not collide, the request keeps its
promises exactly when the status is 200 or the answer has an error. -/
theorem contract_iff (foundation : Foundation) (arrayNews : List News) (answer : Answer)
    (distinct : ∀ body json, answer.data = some body → foundation.jsonObject body = .ok json →
      DistinctKeys foundation json) :
    Contract foundation arrayNews answer ↔ answer.statusCode = some 200 ∨ ¬ Accepted foundation answer := by
  by_cases ok : answer.statusCode = some 200
  · refine iff_of_true ?_ (.inl ok)
    cases decoded : answer.data.bind foundation.decode with
    | some news =>
      obtain ⟨body, data, same⟩ := Option.bind_eq_some_iff.mp decoded
      have delivered : ∀ articles, Delivers foundation answer articles ↔ foundation.decode body = some articles :=
        fun articles => delivers_iff ok data (distinct body · data)
      refine ⟨news, true, by rw [getNewsApi_ok ok, decoded], ?_, fun articles delivers => ?_, nofun⟩
      · exact iff_of_true rfl ⟨news, (delivered news).mpr same⟩
      · exact Option.some.inj (same.symm.trans ((delivered articles).mp delivers))
    | none =>
      have nothing : ∀ articles, ¬ Delivers foundation answer articles := by
        intro articles delivers
        obtain ⟨body, json, data, _⟩ := delivers.2
        have same := (delivers_iff ok data (distinct body · data)).mp delivers
        rw [data, Option.bind_some, same] at decoded
        contradiction
      refine ⟨arrayNews, false, by rw [getNewsApi_ok ok, decoded], ?_, fun articles delivers => ?_, fun _ => rfl⟩
      · exact iff_of_false nofun fun delivers => nothing _ delivers.choose_spec
      · exact absurd delivers (nothing articles)
  · have nothing : ∀ articles, ¬ Delivers foundation answer articles := fun _ delivers => ok delivers.1
    rw [or_iff_right ok, ← responseError_eq_none_iff]
    constructor
    · rintro ⟨kept, success, outcome, reported, _⟩ accepted
      rw [getNewsApi_other ok, if_pos accepted] at outcome
      obtain ⟨_, same⟩ := Prod.mk.inj outcome
      obtain rfl := (List.cons.inj same).1
      obtain ⟨articles, delivers⟩ := reported.mp rfl
      exact nothing articles delivers
    · intro refused
      refine ⟨arrayNews, false, by rw [getNewsApi_other ok, if_neg refused], ?_, fun articles delivers => ?_,
        fun _ => rfl⟩
      · exact iff_of_false nofun fun delivers => nothing _ delivers.choose_spec
      · exact absurd delivers (nothing articles)

/-- A body with one article. -/
def articleBody : List UInt8 :=
  ("\x7b\"news\":[" ++
    "\x7b\"headline\":\"h\",\"url\":\"u\",\"inserted\":\"i\",\"pic_src\":\"p\",\"featured\":\"f\"\x7d" ++
    "]\x7d").toUTF8.data.toList

/-- An empty JSON object, the body of an HTTP error. -/
def errorBody : List UInt8 := [123, 125]

/-- Foundation on these two bodies and their keys. -/
def sample : Foundation where
  jsonObject body :=
    if body = errorBody then .ok (.object [])
    else if body = articleBody then
      .ok (.object [("news", .array [.object [("headline", .string "h"), ("url", .string "u"),
        ("inserted", .string "i"), ("pic_src", .string "p"), ("featured", .string "f")]])])
    else .error ⟨"The data is not in the correct format."⟩
  convertFromSnakeCase key := if key = "pic_src" then "picSrc" else key
  isURL string := string != ""

/-- A feed of one article is kept and reported. -/
theorem contract_of_article : Contract sample [] ⟨some 200, some articleBody, none⟩ := by
  refine (contract_iff sample [] ⟨some 200, some articleBody, none⟩ ?_).mpr (.inl rfl)
  rintro _ json ⟨⟩ parsed
  have other : articleBody ≠ errorBody := by decide +kernel
  simp only [sample, if_neg other, if_pos] at parsed
  obtain rfl := Except.ok.inj parsed
  rintro _ ⟨⟩
  refine ⟨by decide, fun key items member item listed inner same => ?_⟩
  obtain ⟨_, feed⟩ := Prod.mk.inj (List.mem_singleton.mp member)
  obtain rfl := Json.array.inj feed
  obtain rfl := List.mem_singleton.mp listed
  obtain rfl := Json.object.inj same
  decide

/-- A page with status 404 whose body is an empty JSON object is reported as a success, and the
articles that were there are gone. -/
theorem error_page_reported_as_feed :
    NewsController.getNewsApi sample [⟨"h", "u", "i", "p", "f"⟩] ⟨some 404, some errorBody, none⟩ = ([], [true]) ∧
      DistinctKeys sample (.object []) ∧
      ¬ Contract sample [⟨"h", "u", "i", "p", "f"⟩] ⟨some 404, some errorBody, none⟩ := by
  refine ⟨rfl, ?_, ?_⟩
  · rintro _ ⟨⟩
    exact ⟨List.nodup_nil, nofun⟩
  · rintro ⟨kept, success, outcome, reported, _⟩
    cases outcome
    obtain ⟨articles, delivers⟩ := reported.mp rfl
    exact absurd delivers.1 (by decide)

end LoginDN.FeedContract

import LoginDN.Model.NewsApp
import LoginDN.Model.SessionManager

/-! # The news app on top of its session

`NewsAPI.getNews` makes one request with one response handler each time a news screen is loaded. Requests
and handlers are numbered as the screens are, so a handler that is called names the screen whose closure
it is. The session has no retrier, and the address of the feed always makes a request.
-/

namespace LoginDN

open Machine Alamofire

structure NewsSession where
  app : NewsApp
  session : SessionManager

inductive NewsSessionEvent where
  | app (event : NewsEvent)
  | session (event : SessionEvent)

namespace NewsSession

/-- `NewsAPI.getNews`: a request, then its response handler. -/
def getNews (session : SessionManager) : SessionManager :=
  (session.request false (.ok ())).addHandler session.nextRequest

/-- The first screen has asked for its feed. -/
def initial : NewsSession := ⟨NewsApp.initial, getNews SessionManager.initial⟩

variable (foundation : Foundation)

def step? (state : NewsSession) : NewsSessionEvent → Option NewsSession
  | .app (.feedResponse _ _) => none
  | .app .signedIn => (state.app.step? foundation .signedIn).map fun app => ⟨app, getNews state.session⟩
  | .app event => (state.app.step? foundation event).map fun app => ⟨app, state.session⟩
  | .session .main =>
      match state.session.mainQueue with
      | call :: _ => do
          let app ← state.app.step? foundation (.feedResponse call.handler call.answer)
          let session ← state.session.step? false .main
          return ⟨app, session⟩
      | [] => none
  | .session event =>
      if state.app.trapped = none ∧ event.causedByApp = false then
        (state.session.step? false event).map fun session => ⟨state.app, session⟩
      else none

def machine : Machine.System NewsSession NewsSessionEvent := ⟨initial, step? foundation⟩

end NewsSession

end LoginDN

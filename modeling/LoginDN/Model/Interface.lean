import Mathlib.Data.Rat.Defs
import Mathlib.Tactic.Common

/-! # What the app's callbacks ask of the frameworks

A callback of the app runs to its end on the main thread and never reads back what it has just
asked for. So it is a function from what it reads (text fields, the Facebook token, an error) to
the calls it makes, in program order. The calls are data here; a model of a screen or of the whole
app interprets those that concern it and ignores the others.
-/

namespace LoginDN

/-- An error handed to a completion. The app only tests its presence or prints it. -/
structure NSError where
  localizedDescription : String
deriving DecidableEq, Repr, Inhabited

/-- A Firebase account as the app reads it. -/
structure User where
  uid : String
  displayName : Option String
deriving DecidableEq, Repr

/-- The text fields of the auth screens. -/
inductive Field where
  | userName
  | email
  | password
deriving DecidableEq, Repr

/-- A call into Firebase with what its completion closure captured. -/
inductive Request where
  | signIn (email password : String)
  | facebook (tokenString : String)
  | createUser (username email password : String)
  | passwordReset (email : String)
deriving DecidableEq, Repr

/-- How a Facebook login ended: the result and error arguments of the delegate call. -/
inductive LoginOutcome where
  | success (tokenString : String)
  | cancelled
  | failed (error : NSError)
deriving DecidableEq, Repr

/-- `AccessToken.current` when the delegate is called: a successful login has set it, any other one
has left the held token as it was. -/
def LoginOutcome.current (outcome : LoginOutcome) (held : Option String) : Option String :=
  match outcome with
  | .success tokenString => some tokenString
  | .cancelled | .failed _ => held

/-- The calls of the app's own code into UIKit, Firebase, Facebook and UserDefaults. -/
inductive Effect where
  | showLoadingAnimation
  | hiddenLoadingAnimation
  | presentAlert (title message : String)
  | performSegue (identifier : String)
  | dismiss
  | setOriginY (y : ℚ)
  | resignFirstResponder (field : Field)
  | becomeFirstResponder (field : Field)
  | endEditing
  | setDefault (value key : String)
  | send (request : Request)
  | signOut
  | logOut
  | chooseStoryboardToOpen
deriving DecidableEq

/-- `AlertController.showAlert`. -/
def AlertController.showAlert (title message : String) : Effect := .presentAlert title message

/-- Every auth closure of the four controllers tests `error == nil` and nothing else. -/
def succeeded (error : Option NSError) : Bool := error.isNone

@[simp] theorem succeeded_none : succeeded none = true := rfl
@[simp] theorem succeeded_some (error : NSError) : succeeded (some error) = false := rfl

end LoginDN

import LoginDN.Model.Interface

/-! # The callbacks of the auth screens, of the profile screen and of the app delegate

One definition per source function, in the words of the source. A closure passed to a controller is
a definition of its own, named after the function that creates it, and takes what Firebase passes.
-/

namespace LoginDN

open Effect

namespace SignInController

def getSignin (email password : String) : List Effect := [send (.signIn email password)]

/-- Without a current token the closure is dropped and never called. -/
def getSigninFaceBook (current : Option String) : List Effect :=
  match current with
  | none => []
  | some curr => [send (.facebook curr)]

def getSignin.success (error : Option NSError) : Bool := succeeded error
def getSigninFaceBook.success (error : Option NSError) : Bool := succeeded error

end SignInController

namespace SignUpController

/-- The completion closure of the caller captures the user name, so the request carries it. -/
def getSignUp (username email password : String) : List Effect :=
  [send (.createUser username email password)]

def getSignUp.success (error : Option NSError) : Bool := succeeded error

end SignUpController

namespace ResetController

def resetPassword (email : String) : List Effect := [send (.passwordReset email)]

def resetPassword.success (error : Option NSError) : Bool := succeeded error

end ResetController

namespace SignInViewController

def viewDidLoad : List Effect := [hiddenLoadingAnimation]

def keyboardWillChange : List Effect := [setOriginY (-300)]

def performSignIn (emailTF passwordTF : String) : List Effect :=
  if emailTF ≠ "" ∧ passwordTF ≠ "" then
    showLoadingAnimation :: SignInController.getSignin emailTF passwordTF
  else [AlertController.showAlert "Missing Info" "Please fill out all required fields"]

def performSignIn.completion (success : Bool) : List Effect :=
  [if success then performSegue "signInSegue"
    else AlertController.showAlert "Error" "Não foi possivel fazer Login",
   hiddenLoadingAnimation]

/-- The view moves back after the overlay was put up. -/
def singInTapped (emailTF passwordTF : String) : List Effect :=
  performSignIn emailTF passwordTF ++ [setOriginY 0]

/-- The token was cleared before the delegate call; the callback itself only prints. -/
def loginButtonDidLogOut : List Effect := []

/-- The callback looks at the current token only, neither at the result nor at the error. -/
def loginButton (_outcome : LoginOutcome) (current : Option String) : List Effect :=
  match current with
  | none => []
  | some _ => showLoadingAnimation :: SignInController.getSigninFaceBook current

/-- The last call is a show in both cases. -/
def loginButton.completion (success : Bool) : List Effect :=
  (if success then [hiddenLoadingAnimation, performSegue "signInSegue"] else []) ++
    [showLoadingAnimation]

/-- The calls of the delegate method and the Boolean it answers. -/
def textFieldShouldReturn (textField : Field) (text : Field → String) : List Effect × Bool :=
  if text textField = "" then ([], false)
  else match textField with
    | .email => ([resignFirstResponder .email, becomeFirstResponder .password], true)
    | .password =>
        ([resignFirstResponder .password, setOriginY 0] ++
          performSignIn (text .email) (text .password), true)
    | .userName => ([], false)

def touchesBegan : List Effect := [endEditing, setOriginY 0]

end SignInViewController

namespace SignUpViewController

def viewDidLoad : List Effect := [hiddenLoadingAnimation]

/-- The overlay goes up before the fields are checked. -/
def performSignUp (userName email password : String) : List Effect :=
  showLoadingAnimation ::
    (if userName ≠ "" ∧ email ≠ "" ∧ password ≠ "" then SignUpController.getSignUp userName email password
    else [AlertController.showAlert "Missing Info" "Please fill out all fields", hiddenLoadingAnimation])

def performSignUp.completion (username : String) (success : Bool) : List Effect :=
  (if success then [setDefault username "username", performSegue "signUpSegue"]
    else [AlertController.showAlert "Error" "Não foi possivel realizar o Cadastro"]) ++
    [hiddenLoadingAnimation]

def registerBtTapped (userName email password : String) : List Effect :=
  performSignUp userName email password

def backSignIn : List Effect := [dismiss]

def textFieldShouldReturn (textField : Field) (text : Field → String) : List Effect × Bool :=
  if text textField = "" then ([], false)
  else match textField with
    | .userName => ([resignFirstResponder .userName, becomeFirstResponder .email], true)
    | .email => ([resignFirstResponder .email, becomeFirstResponder .password], true)
    | .password =>
        (resignFirstResponder .password ::
          performSignUp (text .userName) (text .email) (text .password), true)

def touchesBegan : List Effect := [endEditing]

end SignUpViewController

namespace ResetPasswordViewController

def viewDidLoad : List Effect := []

def resetpassword (email : String) : List Effect :=
  if email ≠ "" then showLoadingAnimation :: ResetController.resetPassword email
  else [AlertController.showAlert "Attention!!!" "Please enter an email"]

def resetpassword.completion (success : Bool) : List Effect :=
  [if success then AlertController.showAlert "Congratulations!!!"
      ("We have just sent you a password reset email. " ++
        "Please check your inbox and follow the instructions to reset your password")
    else AlertController.showAlert "Attention!!!" "Please enter an email valid",
   hiddenLoadingAnimation]

def resetPasswordTapped (email : String) : List Effect := resetpassword email

def backSignIn : List Effect := [dismiss]

def textFieldShouldReturn (textField : Field) (text : Field → String) : List Effect × Bool :=
  if text textField = "" then ([], false)
  else match textField with
    | .email => (resignFirstResponder .email :: resetpassword (text .email), true)
    | _ => ([], false)

def touchesBegan : List Effect := [endEditing, setOriginY 0]

end ResetPasswordViewController

namespace SignOutViewController

/-- The text of the name label: the display name when it is not empty, else the stored user name. -/
def viewDidLoad (currentUser : Option User) (defaults : String → Option String) : Option String :=
  match currentUser.bind User.displayName with
  | some username => if username ≠ "" then some username else defaults "username"
  | none => defaults "username"

/-- `thrown` is the error of `Auth.auth().signOut()`; the catch clause only prints it. -/
def signOutTappedNews (thrown : Option NSError) : List Effect :=
  match thrown with
  | none => [signOut, logOut, dismiss, chooseStoryboardToOpen]
  | some _ => []

end SignOutViewController

/-- The root controllers of the two branches of `chooseStoryboardToOpen`. -/
inductive Storyboard where
  | signInViewController
  | tabBar
deriving DecidableEq, Repr

namespace AppDelegate

def chooseStoryboardToOpen (currentUser : Option User) : Storyboard :=
  if currentUser = none then .signInViewController else .tabBar

def didFinishLaunching : List Effect := [Effect.chooseStoryboardToOpen]

end AppDelegate

/-- The closure Firebase calls when it has answered a request. -/
def Request.callback (request : Request) (error : Option NSError) : List Effect :=
  match request with
  | .signIn _ _ => SignInViewController.performSignIn.completion (SignInController.getSignin.success error)
  | .facebook _ =>
      SignInViewController.loginButton.completion (SignInController.getSigninFaceBook.success error)
  | .createUser username _ _ =>
      SignUpViewController.performSignUp.completion username (SignUpController.getSignUp.success error)
  | .passwordReset _ =>
      ResetPasswordViewController.resetpassword.completion (ResetController.resetPassword.success error)

end LoginDN

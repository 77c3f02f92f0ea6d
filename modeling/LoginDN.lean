import LoginDN.Soundness.FeedDelivery
import LoginDN.Soundness.ProfileName
import LoginDN.Soundness.RowIdentity
import LoginDN.Soundness.SavedReminders
import LoginDN.Soundness.ReminderTarget
import LoginDN.Soundness.NewsTraps
import LoginDN.Soundness.FeedContract
import LoginDN.Soundness.FacebookToken
import LoginDN.Soundness.LoadingOverlay
import LoginDN.Soundness.ScreenArea
import LoginDN.Soundness.Submission
import LoginDN.Soundness.CellPictures
import LoginDN.Soundness.PictureRest

import SftpGo.Util.Path
import SftpGo.Vfs.Fs
import SftpGo.Vfs.Folder
import SftpGo.Sftpd.Connection
import SftpGo.Sftpd.Handler
import SftpGo.Sftpd.Upload
import SftpGo.Sftpd.StatVFS
import SftpGo.Sftpd.UploadSafety
import SftpGo.Sftpd.OverwriteAccounting
import SftpGo.Sftpd.UploadPlan
import SftpGo.Sftpd.Authorization
import SftpGo.Sftpd.Disclosure
import SftpGo.Sftpd.StatVFSBounds
import SftpGo.Sftpd.ErrorTranslation
import SftpGo.Sftpd.Frame
import SftpGo.Sftpd.Session

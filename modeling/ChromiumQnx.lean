import ChromiumQnx.Foundation.ArmStack
import ChromiumQnx.Foundation.BoundedFifo
import ChromiumQnx.Foundation.ByteMemory
import ChromiumQnx.Foundation.CHeap
import ChromiumQnx.Foundation.CharBuffer
import ChromiumQnx.Foundation.DataUrl
import ChromiumQnx.Foundation.DescriptorTable
import ChromiumQnx.Foundation.DynamicLoader
import ChromiumQnx.Foundation.KeyedList
import ChromiumQnx.Foundation.KeywordRewrite
import ChromiumQnx.Foundation.Lifetimes
import ChromiumQnx.Foundation.OrderedMap
import ChromiumQnx.Foundation.PartialOutput
import ChromiumQnx.Foundation.PercentCoding
import ChromiumQnx.Foundation.PressRelease
import ChromiumQnx.Foundation.RowCopy
import ChromiumQnx.Foundation.SequentialCopies
import ChromiumQnx.Foundation.ShortWrites
import ChromiumQnx.Foundation.Snprintf
import ChromiumQnx.Foundation.StringSearch
import ChromiumQnx.Foundation.TransitionSystem
import ChromiumQnx.Foundation.UriComponent
import ChromiumQnx.Foundation.Watermarks
import ChromiumQnx.Foundation.WeakPtr
import ChromiumQnx.Url.UrlParse
import ChromiumQnx.Base.DataFileLoaders
import ChromiumQnx.Base.Eventfd
import ChromiumQnx.Base.EventfdCounter
import ChromiumQnx.Base.FileWatchPolls
import ChromiumQnx.Base.FilesQnx
import ChromiumQnx.Base.FormattedTraces
import ChromiumQnx.Base.MallocFallback
import ChromiumQnx.Base.MemoryMappedFile
import ChromiumQnx.Base.MemoryQnx
import ChromiumQnx.Base.MessagePump.BoundedWait
import ChromiumQnx.Base.MessagePump.Wakeup
import ChromiumQnx.Base.PlatformThreadPosix
import ChromiumQnx.Base.ProcessQnx
import ChromiumQnx.Base.QnxAbortOverride
import ChromiumQnx.Base.StackDumpSignalHandler
import ChromiumQnx.Base.TemporaryFiles
import ChromiumQnx.Components.LockFile
import ChromiumQnx.Net.MimeUtil
import ChromiumQnx.Net.SocketPosixConnect
import ChromiumQnx.Net.SocketPosixErrno
import ChromiumQnx.Net.SocketPosixRead
import ChromiumQnx.Services.SharedDictionaryStorage
import ChromiumQnx.Gpu.GpuQnx
import ChromiumQnx.Gpu.QnxScreenGlOzoneEgl
import ChromiumQnx.Ui.FramebufferDump
import ChromiumQnx.Ui.InputDelivery
import ChromiumQnx.Ui.OzonePlatformQnxScreen
import ChromiumQnx.Ui.QnxScreenKeyboard
import ChromiumQnx.Ui.QnxScreenPolling
import ChromiumQnx.Ui.QnxScreenSurface
import ChromiumQnx.Ui.QnxScreenTouch
import ChromiumQnx.Ui.QnxScreenWindow
import ChromiumQnx.Ui.QnxScreenProperties
import ChromiumQnx.Ui.QnxScreenWindowUsers
import ChromiumQnx.Blink.DoctypeContext
import ChromiumQnx.Blink.HTMLDocumentParser
import ChromiumQnx.Content.BerryBrowserChrome
import ChromiumQnx.Content.ChildProcessEnvironment
import ChromiumQnx.Content.ChildProcessFds
import ChromiumQnx.Content.DumpDom
import ChromiumQnx.Content.LaunchedProcesses
import ChromiumQnx.Content.NavigationWaits
import ChromiumQnx.Content.QnxPlatformStubs
import ChromiumQnx.Content.ShellMain
import ChromiumQnx.Content.ShellPlatformDelegate
import ChromiumQnx.Deploy.Launcher
import ChromiumQnx.Deploy.LauncherMain

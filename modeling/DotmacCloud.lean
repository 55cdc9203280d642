import DotmacCloud.Acknowledging
import DotmacCloud.AppendOnly
import DotmacCloud.Balance
import DotmacCloud.Blocking
import DotmacCloud.Charging
import DotmacCloud.LoneWorker
import DotmacCloud.Gate
import DotmacCloud.LaterReceipts
import DotmacCloud.Naming
import DotmacCloud.Progress
import DotmacCloud.Reordering
import DotmacCloud.Rerun
import DotmacCloud.Settling
import DotmacCloud.Storing
import DotmacCloud.TableHistory
import DotmacCloud.Noninterference
import DotmacCloud.Refusals

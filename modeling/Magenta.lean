import Magenta.Sys
import Magenta.Vec
import Magenta.Channel.Basic
import Magenta.Channel.Ownership
import Magenta.Pipe.Basic
import Magenta.Pipe.Ownership
import Magenta.Endpoint
import Magenta.FailedRead
import Magenta.Handoff
import Magenta.Pair
import Magenta.Transit
import Magenta.Slots
import Magenta.Objects
import Magenta.ReplyPipe
import Magenta.PipeTransit
import Magenta.ReplyRoundTrip

import OnlineVoting.Calls
import OnlineVoting.Casting
import OnlineVoting.Credentials
import OnlineVoting.Digests
import OnlineVoting.Secrecy
import OnlineVoting.Startup
import OnlineVoting.Schedules
import OnlineVoting.Conduct
import OnlineVoting.Authentication
import OnlineVoting.Refusals
import OnlineVoting.Atomicity
import OnlineVoting.Progress
import OnlineVoting.Privacy
import OnlineVoting.Readback

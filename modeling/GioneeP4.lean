import GioneeP4.Lib.Arbiter
import GioneeP4.Lib.ByteFiles
import GioneeP4.Lib.CInt
import GioneeP4.Lib.CText
import GioneeP4.Lib.DigitPairs
import GioneeP4.Lib.Fill
import GioneeP4.Lib.Init
import GioneeP4.Lib.InitLoop
import GioneeP4.Lib.Layout
import GioneeP4.Lib.Structs
import GioneeP4.Lib.Machine
import GioneeP4.Lib.Memory
import GioneeP4.Lib.Mutex
import GioneeP4.Lib.Outcome
import GioneeP4.Lib.Printing
import GioneeP4.Lib.Prog
import GioneeP4.Lib.Register
import GioneeP4.Lib.Report
import GioneeP4.Lib.RequestReply
import GioneeP4.Lib.Resources
import GioneeP4.Lib.Simulation
import GioneeP4.Lib.Stride
import GioneeP4.Lib.Template
import GioneeP4.Lib.WeightedMean
import GioneeP4.Lib.Words
import GioneeP4.Lights.Device
import GioneeP4.Lights.Calls
import GioneeP4.Lights.Arbitration
import GioneeP4.Lights.Threads
import GioneeP4.Lights.Failures
import GioneeP4.Lights.Brightness
import GioneeP4.Lights.Module
import GioneeP4.Ril.Java
import GioneeP4.Ril.Parcel
import GioneeP4.Ril.Constants
import GioneeP4.Ril.Requests
import GioneeP4.Ril.Commands
import GioneeP4.Ril.Solicited
import GioneeP4.Ril.Unsolicited
import GioneeP4.Ril.Runs
import GioneeP4.Ril.Messages
import GioneeP4.Ril.Outward
import GioneeP4.Ril.SuccessReplies
import GioneeP4.Ril.ErrorReplies
import GioneeP4.Ril.IncomingCalls
import GioneeP4.Ril.Operators
import GioneeP4.Ril.HexStrings
import GioneeP4.Ril.OperatorScan
import GioneeP4.Ril.OperatorLists
import GioneeP4.Wpa.Netlink
import GioneeP4.Wpa.Testmode
import GioneeP4.Wpa.Statistics
import GioneeP4.Wpa.DriverCmd
import GioneeP4.Wpa.QuietBranches
import GioneeP4.Wpa.ReplyLength
import GioneeP4.Wpa.Bounds
import GioneeP4.Wpa.StationUse
import GioneeP4.Wpa.Delivery
import GioneeP4.Wpa.FilterWords
import GioneeP4.Wpa.SigmaParsing
import GioneeP4.Wpa.WapiKey
import GioneeP4.Wpa.Mcc
import GioneeP4.Wpa.Fields
import GioneeP4.Wpa.Decoding
import GioneeP4.Wpa.StackLeak
import GioneeP4.Wpa.Output
import GioneeP4.Wpa.ReadBack
import GioneeP4.Wpa.ArrayBounds
import GioneeP4.Wpa.Sessions
import GioneeP4.Wpa.Wire
import GioneeP4.Wpa.InMemory
import GioneeP4.Wpa.StatisticsInMemory
import GioneeP4.Wpa.FlatSessions
import GioneeP4.Bluetooth.Vendor
import GioneeP4.Bluetooth.Pairing
import GioneeP4.Bluetooth.Lifecycle
import GioneeP4.Bluetooth.Answers
import GioneeP4.Usb.Script
import GioneeP4.Usb.Entering
import GioneeP4.Usb.History
import GioneeP4.Usb.Loop
import GioneeP4.Bootimg.Pack
import GioneeP4.Bootimg.Header
import GioneeP4.Bootimg.Histories

import GatewayLoRa.HandlerSafety
import GatewayLoRa.HashChain
import GatewayLoRa.CipherRoundTrip
import GatewayLoRa.Framing
import GatewayLoRa.SendOk
import GatewayLoRa.RelayCycle
import GatewayLoRa.AckPerMessage
import GatewayLoRa.JWTCapacity
import GatewayLoRa.Recovery
import GatewayLoRa.Reassembly
import GatewayLoRa.EthernetDelivery
import GatewayLoRa.NoLeakage
import GatewayLoRa.SilentModem
import GatewayLoRa.PowerDown
import GatewayLoRa.PowerLoss
import GatewayLoRa.SessionBookkeeping
import GatewayLoRa.GNSSConfirmation
import GatewayLoRa.PositionSearch
import GatewayLoRa.MobileBringUp
import GatewayLoRa.MatchedReplies
import GatewayLoRa.RealTimeClock
import GatewayLoRa.JWTMemory
import GatewayLoRa.RejectedMessages
import GatewayLoRa.AuthenticatedFrames
import GatewayLoRa.UndecodableBody
import GatewayLoRa.ChainedHashes
import GatewayLoRa.MessageLengths
import GatewayLoRa.RelayedJson
import GatewayLoRa.IntegerFields
import GatewayLoRa.Delays
import GatewayLoRa.TimestampRoundTrip
import GatewayLoRa.PowerReads
import GatewayLoRa.HTTPCommands
import GatewayLoRa.SendingChunks
import GatewayLoRa.FieldExtraction
import GatewayLoRa.AESModes
import GatewayLoRa.HMAC
import GatewayLoRa.JWTRoundTrip
import GatewayLoRa.TcpStream
import GatewayLoRa.ReceivedPackets

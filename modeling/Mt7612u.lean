import Mt7612u.Ap.AssocAction
import Mt7612u.Ap.AssocAgrees
import Mt7612u.Ap.AssocReq
import Mt7612u.Ap.AssocReqBounds
import Mt7612u.Ap.Auth
import Mt7612u.Ap.AuthRun
import Mt7612u.Ap.BeaconTimer
import Mt7612u.Ap.BeaconUpdate
import Mt7612u.Ap.RsnieCompared
import Mt7612u.Ap.RsnieVerdict
import Mt7612u.Ap.StaForward
import Mt7612u.Ap.ValidateRsnie
import Mt7612u.BlockAck.ActionFrames
import Mt7612u.BlockAck.Adapter
import Mt7612u.BlockAck.AdapterRun
import Mt7612u.BlockAck.BarSession
import Mt7612u.BlockAck.Conservation
import Mt7612u.BlockAck.Delivery
import Mt7612u.BlockAck.DeliveryOrder
import Mt7612u.BlockAck.DeliveryRun
import Mt7612u.BlockAck.Drain
import Mt7612u.BlockAck.Ledger
import Mt7612u.BlockAck.Originator
import Mt7612u.BlockAck.Permutation
import Mt7612u.BlockAck.Pool
import Mt7612u.BlockAck.Recipient
import Mt7612u.BlockAck.Reorder
import Mt7612u.BlockAck.ReorderList
import Mt7612u.BlockAck.Sequence
import Mt7612u.BlockAck.SessionRun
import Mt7612u.BlockAck.SessionTable
import Mt7612u.BlockAck.SlotTables
import Mt7612u.BlockAck.TableConsistency
import Mt7612u.BlockAck.TearDown
import Mt7612u.BlockAck.Window
import Mt7612u.BlockAck.WindowInvariant
import Mt7612u.Channel.AutoChSel
import Mt7612u.Channel.BuildList
import Mt7612u.Channel.Regions
import Mt7612u.Channel.SelectApCnt
import Mt7612u.Channel.SelectCca
import Mt7612u.Crypto.Aes
import Mt7612u.Crypto.AesTables
import Mt7612u.Crypto.Arc4
import Mt7612u.Crypto.Arc4State
import Mt7612u.Crypto.Cbc
import Mt7612u.Crypto.Ccm
import Mt7612u.Crypto.CcmBlocks
import Mt7612u.Crypto.CcmLoops
import Mt7612u.Crypto.CcmRoundTrip
import Mt7612u.Crypto.Cmac
import Mt7612u.Crypto.HashBlocks
import Mt7612u.Crypto.Hmac
import Mt7612u.Crypto.KeyWrap
import Mt7612u.Crypto.StreamHash
import Mt7612u.Crypto.StreamHashRun
import Mt7612u.Crypto.TkipMixKey
import Mt7612u.Library.ByteNumber
import Mt7612u.Library.CcmFormat
import Mt7612u.Library.CcmReceiver
import Mt7612u.Library.CmacFormat
import Mt7612u.Library.ColumnMix
import Mt7612u.Library.Directory
import Mt7612u.Library.ExchangeSort
import Mt7612u.Library.HashChains
import Mt7612u.Library.KeyedHash
import Mt7612u.Library.Ownership
import Mt7612u.Library.PaddedHash
import Mt7612u.Library.Requests
import Mt7612u.Library.Resequencer
import Mt7612u.Library.Ring
import Mt7612u.Library.Run
import Mt7612u.Library.Smoothing
import Mt7612u.Library.TaggedElements
import Mt7612u.Library.Undo
import Mt7612u.Mcu.Command
import Mt7612u.Mcu.CommandRun
import Mt7612u.Mcu.LoadFw
import Mt7612u.Mcu.QueueLoops
import Mt7612u.Mcu.SendCmd
import Mt7612u.Mgmt.MacTable
import Mt7612u.Mgmt.MacTableRun
import Mt7612u.Mlme.BeaconBounds
import Mt7612u.Mlme.BeaconReport
import Mt7612u.Mlme.BeaconSanity
import Mt7612u.Mlme.BssSelection
import Mt7612u.Mlme.BssTable
import Mt7612u.Mlme.BssTableRun
import Mt7612u.Mlme.BssTableSort
import Mt7612u.Mlme.CmdQueue
import Mt7612u.Mlme.IntolerantReport
import Mt7612u.Mlme.PublicAction
import Mt7612u.Mlme.Queue
import Mt7612u.Mlme.QueueRace
import Mt7612u.Mlme.QueueRun
import Mt7612u.Mlme.SupportMcs
import Mt7612u.Mlme.TimElement
import Mt7612u.Mlme.TimerQueue
import Mt7612u.Rate.GroupSelect
import Mt7612u.Receive.AmsduRoundTrip
import Mt7612u.Receive.BulkIn
import Mt7612u.Receive.Convert8023
import Mt7612u.Receive.DataFrame
import Mt7612u.Receive.Deaggregate
import Mt7612u.Receive.Defragment
import Mt7612u.Receive.DefragmentBounds
import Mt7612u.Receive.Memory
import Mt7612u.Receive.PortControl
import Mt7612u.Receive.RalinkRanges
import Mt7612u.Receive.RalinkSplit
import Mt7612u.Receive.RssiAverage
import Mt7612u.Receive.RxRing
import Mt7612u.Security.CipherBounds
import Mt7612u.Security.CipherParse
import Mt7612u.Security.ExtractBounds
import Mt7612u.Security.ExtractSuite
import Mt7612u.Security.MakeRsnie
import Mt7612u.Security.PairOrder
import Mt7612u.Security.RsnieLayout
import Mt7612u.Security.RsnieReaders
import Mt7612u.Security.RsnieRoundTrip
import Mt7612u.Spectrum.ActionSanity
import Mt7612u.Spectrum.Dfs
import Mt7612u.Spectrum.RequestTable
import Mt7612u.Spectrum.RequestTableRun
import Mt7612u.Sta.Assoc
import Mt7612u.Sta.AssocBounds
import Mt7612u.Sta.AssocRun
import Mt7612u.Sta.AssocSanity
import Mt7612u.Sta.Auth
import Mt7612u.Sta.AuthRun
import Mt7612u.Sta.Connect
import Mt7612u.Sta.ConnectRun
import Mt7612u.Sta.Sync
import Mt7612u.Sta.SyncScan
import Mt7612u.Transmit.Adapter
import Mt7612u.Transmit.AmsduTx
import Mt7612u.Transmit.BulkRing
import Mt7612u.Transmit.Disposal
import Mt7612u.Transmit.FragmentDisposal
import Mt7612u.Transmit.FrameDisposal
import Mt7612u.Transmit.FrameTx
import Mt7612u.Transmit.MgmtRing
import Mt7612u.Transmit.MgmtRingRun
import Mt7612u.Transmit.PowerSave
import Mt7612u.Transmit.PowerSaveRun
import Mt7612u.Transmit.PsQueue
import Mt7612u.Transmit.RalinkTx
import Mt7612u.Transmit.SendPacket
import Mt7612u.Transmit.TimBitmap
import Mt7612u.Transmit.TxQueue
import Mt7612u.Transmit.TxQueueRun
import Mt7612u.Transmit.TxSkb
import Mt7612u.Transmit.UsbBatch
import Mt7612u.Transmit.UsbBulkOut
import Mt7612u.Transmit.UsbFinish
import Mt7612u.Transmit.UsbInvariant
import Mt7612u.Transmit.UsbRecovery
import Mt7612u.Transmit.UsbRing
import Mt7612u.Transmit.UsbRun
import Mt7612u.Transmit.UsbWriters
import Mt7612u.Transmit.WakeUp
import Mt7612u.Wpa.Adapter
import Mt7612u.Wpa.Authentic
import Mt7612u.Wpa.Construct
import Mt7612u.Wpa.DecryptorsAgree
import Mt7612u.Wpa.DerivePtk
import Mt7612u.Wpa.Eapol
import Mt7612u.Wpa.GroupKept
import Mt7612u.Wpa.GroupRekey
import Mt7612u.Wpa.GroupRekeyRun
import Mt7612u.Wpa.Handlers
import Mt7612u.Wpa.Handshake
import Mt7612u.Wpa.HandshakeInvariant
import Mt7612u.Wpa.HandshakeRun
import Mt7612u.Wpa.KeyAction
import Mt7612u.Wpa.KeyDataPath
import Mt7612u.Wpa.KeyDelivery
import Mt7612u.Wpa.KeyExpansion
import Mt7612u.Wpa.Message
import Mt7612u.Wpa.Michael
import Mt7612u.Wpa.PacketNumber
import Mt7612u.Wpa.PasswordHash
import Mt7612u.Wpa.PmkidCache
import Mt7612u.Wpa.PmkidCacheRun
import Mt7612u.Wpa.PskPtk
import Mt7612u.Wpa.Reinstall
import Mt7612u.Wpa.Replay
import Mt7612u.Wpa.RsnIe
import Mt7612u.Wpa.Sanity
import Mt7612u.Wpa.SoftAccept
import Mt7612u.Wpa.SoftBounds
import Mt7612u.Wpa.SoftDecrypt
import Mt7612u.Wpa.SoftDecryptAes
import Mt7612u.Wpa.SoftEncrypt
import Mt7612u.Wpa.Steps
import Mt7612u.Wpa.Verdict

import EtcdClient.Config.Environment
import EtcdClient.Connect
import EtcdClient.KeepAlive.Thread
import EtcdClient.Logging.Filter
import EtcdClient.Logging.Options
import EtcdClient.Service
import EtcdClient.Wire.Encoding
import EtcdClient.Proofs.Capabilities.Gating
import EtcdClient.Proofs.Connect.Detection
import EtcdClient.Proofs.Connect.Token
import EtcdClient.Proofs.KeepAlive.Cadence
import EtcdClient.Proofs.KeepAlive.Delivery
import EtcdClient.Proofs.KeepAlive.Drop
import EtcdClient.Proofs.KeepAlive.Isolation
import EtcdClient.Proofs.KeepAlive.Margin
import EtcdClient.Proofs.KeepAlive.Refusal
import EtcdClient.Proofs.KeepAlive.Requests
import EtcdClient.Proofs.KeepAlive.Start
import EtcdClient.Proofs.KeyRange.Selection
import EtcdClient.Proofs.Kv.Txn
import EtcdClient.Proofs.Watch.Delivery
import EtcdClient.Proofs.Watch.Grace
import EtcdClient.Proofs.Watch.Isolation
import EtcdClient.Proofs.Watch.Refusal
import EtcdClient.Proofs.Watch.Requests
import EtcdClient.Proofs.Watch.Start
import EtcdClient.Proofs.Session.FailedStart
import EtcdClient.Proofs.Session.Isolation
import EtcdClient.Proofs.Operation.Calls
import EtcdClient.Proofs.Version.Spelling
import EtcdClient.Proofs.Version.Reading
import EtcdClient.Proofs.Config.Endpoints
import EtcdClient.Proofs.Config.SettingsFiles

import RustDaq.Streaming.Event
import RustDaq.Streaming.Wrapper
import RustDaq.Streaming.Sequential
import RustDaq.Streaming.Interleaving
import RustDaq.Streaming.MaxFrames
import RustDaq.Streaming.Sessions
import RustDaq.Streaming.ToNumpy
import RustDaq.Client

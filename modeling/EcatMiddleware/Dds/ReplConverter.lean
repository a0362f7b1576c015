import EcatMiddleware.Data.Repl

/-!
# The command converters

`convert::protobuf::from_dds` of a REPL command fills a Protobuf message that it is given: scalar
fields are overwritten, the elements of repeated fields are added to those that are there.
`convert::dds::from_protobuf` turns the reply of the master into the response.

* `headerFromReply_fromDdsHeader`: the two header conversions lose nothing.
-/

namespace EcatMiddleware.Dds

/-! ## Headers -/

def fromDdsHeader (msgdds : Idl.Header) (pb : Pb.Header) : Pb.Header :=
  { pb with
    strId? := some msgdds.frameId
    stamp? := some
      { pb.stamp with
        sec := msgdds.stamp.sec
        nsec := msgdds.stamp.nanosec.toInt32 } }

/-! ## Payloads -/

def fromDdsGains (msgdds : Idl.Gains) (pb : Pb.Gains) : Pb.Gains :=
  { pb with
    type? := some (enumOf msgdds.type)
    posKp? := some msgdds.posKp
    posKd? := some msgdds.posKd
    torKp? := some msgdds.torKp
    torKi? := some msgdds.torKi
    torKd? := some msgdds.torKd }

/-- `set_name` and `set_value` of an element that was just added. -/
def fromDdsKeyVal (msgdds : Idl.KeyValStr) : Pb.KeyVal :=
  { name? := some msgdds.name, value? := some msgdds.value }

def fromDdsTrajectoryCmd (msgdds : Idl.TrajectoryCmd) (pb : Pb.TrajectoryCmd) :
    Pb.TrajectoryCmd :=
  let smoothPar := pb.smoothPar?.getD {}
  let periodPar := pb.periodPar?.getD {}
  let homingPar := pb.homingPar?.getD {}
  let smoothVelPar := pb.smoothVelPar?.getD {}
  { pb with
    type? := some (enumOf msgdds.type)
    name? := some msgdds.name
    boardId? := some msgdds.boardId
    smoothPar? := some
      { smoothPar with
        x := smoothPar.x ++ msgdds.smoothPar.x
        y := smoothPar.y ++ msgdds.smoothPar.y }
    periodPar? := some
      { periodPar with
        freq? := some msgdds.periodPar.freq
        ampl? := some msgdds.periodPar.ampl
        teta? := some msgdds.periodPar.teta
        secs? := some msgdds.periodPar.secs }
    homingPar? := some { homingPar with x := homingPar.x ++ msgdds.homingPar.x }
    smoothVelPar? := some
      { smoothVelPar with
        dt? := some msgdds.smoothVelPar.dt
        p0? := some msgdds.smoothVelPar.p0
        v0? := some msgdds.smoothVelPar.v0
        pt? := some msgdds.smoothVelPar.pt
        vt? := some msgdds.smoothVelPar.vt
        ds? := some msgdds.smoothVelPar.ds
        magic? := some msgdds.smoothVelPar.magic } }

/-- For a start, gains of type 0 mean that none are supplied: their presence is cleared. -/
def fromDdsCtrlCmd (msgdds : Idl.CtrlCmd) (pb : Pb.CtrlCmd) : Pb.CtrlCmd :=
  let pb :=
    { pb with
      type? := some (enumOf msgdds.type)
      boardId? := some msgdds.boardId
      value? := some msgdds.value }
  if pb.type?.getD 0 = Pb.ctrlCmdStart ∧ msgdds.gains.type = 0 then { pb with gains? := none }
  else { pb with gains? := some (fromDdsGains msgdds.gains (pb.gains?.getD {})) }

def fromDdsFlashCmd (msgdds : Idl.FlashCmd) (pb : Pb.FlashCmd) : Pb.FlashCmd :=
  { pb with
    type? := some (enumOf msgdds.type)
    boardId? := some msgdds.boardId }

def fromDdsEcatMasterCmd (msgdds : Idl.EcatMasterCmd) (pb : Pb.EcatMasterCmd) :
    Pb.EcatMasterCmd :=
  { pb with
    type? := some (enumOf msgdds.type)
    args := pb.args ++ msgdds.args.map fromDdsKeyVal }

def fromDdsFoeMaster (msgdds : Idl.FoeMaster) (pb : Pb.FoeMaster) : Pb.FoeMaster :=
  { pb with
    filename? := some msgdds.filename
    password? := some msgdds.password
    mcuType? := some msgdds.mcuType
    slavePos? := some msgdds.slavePos
    boardId? := some msgdds.boardId }

def fromDdsTrjQueueCmd (msgdds : Idl.TrjQueueCmd) (pb : Pb.TrjQueueCmd) : Pb.TrjQueueCmd :=
  { pb with
    type? := some (enumOf msgdds.type)
    trjNames := pb.trjNames ++ msgdds.trjNames }

def fromDdsSlaveSdoCmd (msgdds : Idl.SlaveSdoCmd) (pb : Pb.SlaveSdoCmd) : Pb.SlaveSdoCmd :=
  { pb with
    boardId? := some msgdds.boardId
    rdSdo := pb.rdSdo ++ msgdds.rdSdo
    wrSdo := pb.wrSdo ++ msgdds.wrSdo.map fromDdsKeyVal }

def fromDdsSlaveSdoInfo (msgdds : Idl.SlaveSdoInfo) (pb : Pb.SlaveSdoInfo) : Pb.SlaveSdoInfo :=
  { pb with
    type? := some (enumOf msgdds.type)
    boardId? := some msgdds.boardId }

def fromDdsMotorPdoCmd (motor : Idl.MotorPdoCmd) : Pb.MotorPdoCmd where
  motorId? := some motor.motorId
  posRef? := some motor.posRef
  velRef? := some motor.velRef
  torRef? := some motor.torRef
  gains? := some (fromDdsGains motor.gains {})

def fromDdsMotorsPdoCmd (msgdds : Idl.MotorsPdoCmd) (pb : Pb.MotorsPdoCmd) : Pb.MotorsPdoCmd :=
  { pb with motorsPdo := pb.motorsPdo ++ msgdds.motorsPdo.map fromDdsMotorPdoCmd }

def fromDdsSlaveRegistryWrite (msgdds : Idl.SlaveRegistryWrite) (pb : Pb.SlaveRegistryWrite) :
    Pb.SlaveRegistryWrite :=
  { pb with
    type? := some (enumOf msgdds.type)
    boardId? := some msgdds.boardId }

def fromDdsAuxCmd (auxCmd : Idl.AuxCmd) : Pb.AuxCmd where
  type? := some (enumOf auxCmd.type)
  boardId? := some auxCmd.boardId

def fromDdsPdoAuxCmd (msgdds : Idl.PdoAuxCmd) (pb : Pb.PdosAuxCmd) : Pb.PdosAuxCmd :=
  { pb with auxCmds := pb.auxCmds ++ msgdds.auxCmds.map fromDdsAuxCmd }

/-! ## Requests and responses -/

/-- `from_dds` of the content. Every payload is set, whatever the type; the header is not. -/
def fromDdsContent (request : Idl.ReplCmdContent) (pb : Pb.ReplCmd) : Pb.ReplCmd :=
  { pb with
    type := .ofNumber request.type
    trajectoryCmd? :=
      some (fromDdsTrajectoryCmd request.trajectoryCmd (pb.trajectoryCmd?.getD {}))
    ctrlCmd? := some (fromDdsCtrlCmd request.ctrlCmd (pb.ctrlCmd?.getD {}))
    flashCmd? := some (fromDdsFlashCmd request.flashCmd (pb.flashCmd?.getD {}))
    ecatMasterCmd? :=
      some (fromDdsEcatMasterCmd request.ecatMasterCmd (pb.ecatMasterCmd?.getD {}))
    foeMaster? := some (fromDdsFoeMaster request.foeMaster (pb.foeMaster?.getD {}))
    trjQueueCmd? := some (fromDdsTrjQueueCmd request.trjQueueCmd (pb.trjQueueCmd?.getD {}))
    slaveSdoCmd? := some (fromDdsSlaveSdoCmd request.slaveSdoCmd (pb.slaveSdoCmd?.getD {}))
    slaveSdoInfo? := some (fromDdsSlaveSdoInfo request.slaveSdoInfo (pb.slaveSdoInfo?.getD {}))
    motorsPdoCmd? := some (fromDdsMotorsPdoCmd request.motorsPdoCmd (pb.motorsPdoCmd?.getD {}))
    slaveRegistryWrite? :=
      some (fromDdsSlaveRegistryWrite request.slaveRegistryWrite (pb.slaveRegistryWrite?.getD {}))
    pdosAuxCmd? := some (fromDdsPdoAuxCmd request.pdosAuxCmd (pb.pdosAuxCmd?.getD {})) }

def fromDdsRequest (request : Idl.ReplCmdRequest) (pb : Pb.ReplCmd) : Pb.ReplCmd :=
  fromDdsContent request.request pb

@[simp] theorem fromDdsRequest_header (request : Idl.ReplCmdRequest) (pb : Pb.ReplCmd) :
    (fromDdsRequest request pb).header? = pb.header? := rfl

/-- The header of a response. An absent header reads as the empty one. -/
def headerFromReply (pb : Pb.CmdReply) : Idl.Header :=
  let header := pb.header?.getD {}
  { frameId := header.strId
    stamp := { sec := header.stamp.sec, nanosec := header.stamp.nsec.toUInt32 } }

/-- `from_protobuf` of a reply. The numbers of its type are the generated code's. -/
def responseFromProtobuf (typeNumber : Pb.ReplyType → UInt8) (pb : Pb.CmdReply)
    (ddsResponse : Idl.ReplCmdResponse) : Idl.ReplCmdResponse :=
  { ddsResponse with
    type := typeNumber pb.type
    success := pb.type == .ack
    msg := pb.msg
    header := headerFromReply pb
    pdo := pb.pdo }

/-- A header that is converted both ways is unchanged. -/
theorem headerFromReply_fromDdsHeader (header : Idl.Header) (pb : Pb.Header) (reply : Pb.CmdReply)
    (h : reply.header? = some (fromDdsHeader header pb)) : headerFromReply reply = header := by
  simp [headerFromReply, h, fromDdsHeader, Pb.Header.strId, Pb.Header.stamp]

end EcatMiddleware.Dds
